import BuildGraph.Proofs.Number.Decimal
import BuildGraph.Proofs.Script.Steps
import BuildGraph.Proofs.Text.LowerCase

/-!
# Requests and their commands

What is read from the arguments that are written for an HTTP request. Each part of the arguments is
read by itself, whatever comes behind it (`Reads`), so a value that looks like a flag is never taken
for one; `readCurl_curlArguments` is the reading of the whole. `ofCurl?_curlArguments` says which
request is read, and from it come two statements: `request_round_trip`, when it is the request that
was written, and `command_stays_spec`, when at least its command is the one that was written. A
content type among the other headers may come back at another place: `command_moves_content_type`.
-/

namespace BuildGraph.HttpConfig

open BuildGraph.Text BuildGraph.Number Script

section Headers

/-- The line of a header. -/
def headerLine (h : String × String) : String := h.1 ++ ": " ++ h.2

/-- The name and the value that are read from the line of a header. -/
def shownHeader (h : String × String) : String × String := (readHeader? (headerLine h)).getD h

variable {name value cs : List Char}

/-- A header is split at its first colon and space, wherever these are. -/
theorem exists_splitHeader (name value : List Char) :
    ∃ found, splitHeader (name ++ ':' :: ' ' :: value) = some found := by
  induction name with
  | nil => exact ⟨_, rfl⟩
  | cons c name ih =>
      obtain ⟨found, hfound⟩ := ih
      rw [List.cons_append]
      by_cases hhere : ∃ rest, c = ':' ∧ name ++ ':' :: ' ' :: value = ' ' :: rest
      · obtain ⟨rest, rfl, hrest⟩ := hhere
        rw [hrest]
        exact ⟨_, rfl⟩
      · rw [splitHeader.eq_3 _ _ fun rest hc hrest => hhere ⟨rest, hc, hrest⟩, hfound]
        exact ⟨_, rfl⟩

/-- A name without a colon and a space in it comes back. -/
theorem splitHeader_append (h : occursIn [':', ' '] name = false) :
    splitHeader (name ++ ':' :: ' ' :: value) = some (name, value) := by
  induction name with
  | nil => rfl
  | cons c name ih =>
      rw [occursIn, Bool.or_eq_false_iff] at h
      obtain ⟨hhere, hlater⟩ := h
      rw [List.cons_append, splitHeader.eq_3, ih hlater]
      · rfl
      · rintro rest rfl hrest
        cases name with
        | nil => simp at hrest
        | cons d name =>
            obtain rfl : d = ' ' := (List.cons.inj hrest).1
            simp [List.isPrefixOf] at hhere

/-- The two parts of a header make its line. -/
theorem eq_of_splitHeader (h : splitHeader cs = some (name, value)) :
    cs = name ++ ':' :: ' ' :: value := by
  fun_induction splitHeader cs generalizing name with
  | case1 => cases h
  | case2 rest =>
      obtain ⟨rfl, rfl⟩ := Prod.mk.inj (Option.some.inj h)
      rfl
  | case3 c rest hnot ih =>
      obtain ⟨⟨front, back⟩, hfound, heq⟩ := Option.map_eq_some_iff.1 h
      obtain ⟨rfl, rfl⟩ := Prod.mk.inj heq
      rw [ih hfound, List.cons_append]

variable {h : String × String}

theorem toList_headerLine (h : String × String) :
    (headerLine h).toList = h.1.toList ++ ':' :: ' ' :: h.2.toList := by
  simp [headerLine]

/-- Every line of a header is read. -/
theorem readHeader?_headerLine (h : String × String) :
    readHeader? (headerLine h) = some (shownHeader h) := by
  obtain ⟨found, hfound⟩ := exists_splitHeader h.1.toList h.2.toList
  simp [shownHeader, readHeader?, toList_headerLine, hfound]

/-- What is read from the line of a header has the same line. -/
theorem headerLine_shownHeader (h : String × String) :
    headerLine (shownHeader h) = headerLine h := by
  obtain ⟨⟨name, value⟩, hfound⟩ := exists_splitHeader h.1.toList h.2.toList
  have hline := eq_of_splitHeader hfound
  rw [← String.toList_inj, toList_headerLine, toList_headerLine, hline]
  simp [shownHeader, readHeader?, toList_headerLine, hfound]

theorem shownHeader_congr {h h' : String × String} (hline : headerLine h = headerLine h') :
    shownHeader h = shownHeader h' := by
  have hread := readHeader?_headerLine h
  rw [hline, readHeader?_headerLine] at hread
  exact (Option.some.inj hread).symm

/-- A header comes back when its name has no colon and space in it. -/
theorem shownHeader_eq_self (hname : contains h.1 ": " = false) : shownHeader h = h := by
  have hsplit : splitHeader (h.1.toList ++ ':' :: ' ' :: h.2.toList) =
      some (h.1.toList, h.2.toList) := splitHeader_append hname
  simp [shownHeader, readHeader?, toList_headerLine, hsplit]

end Headers

section ContentType

/-- The name of the header that names the content type, in lower case. -/
def contentTypeName : String := "content-type"

/-- A header is read as one that names the content type. -/
def NamesContentType (h : String × String) : Prop := lower (shownHeader h).1 = contentTypeName

instance (h : String × String) : Decidable (NamesContentType h) :=
  inferInstanceAs (Decidable (_ = _))

theorem occursIn_of_not_mem {c d : Char} {cs : List Char} (h : c ∉ cs) :
    occursIn [c, d] cs = false := by
  induction cs with
  | nil => rfl
  | cons x cs ih =>
      rw [List.mem_cons, not_or] at h
      rw [occursIn, ih h.2]
      simp [List.isPrefixOf, h.1]

/-- The lower-case letters of the name come from one letter each. -/
theorem comesAlone_contentTypeName : ∀ d ∈ contentTypeName.toList, ComesAlone d := by
  simp [contentTypeName, ComesAlone]

variable {h : String × String}

/-- A header names the content type, and has the value behind the name. -/
theorem NamesContentType.length_eq (hname : NamesContentType h) :
    (shownHeader h).1.toList.length = contentTypeName.length ∧
      ∀ c ∈ (shownHeader h).1.toList, LowersAlone c := by
  have hlower : lowerFrom [] (shownHeader h).1.toList = contentTypeName.toList := by
    simpa [lower] using congrArg String.toList hname
  obtain ⟨hmap, halone⟩ := map_lowerChar_of_lowerFrom comesAlone_contentTypeName hlower
  refine ⟨?_, halone⟩
  rw [← String.length_toList, ← hmap, List.length_map]

/-- The line of a header begins with the name of the content type, in any case, when the header is
read as one of that name. -/
theorem startsWith_lower_headerLine (h : String × String) :
    startsWith (lower (headerLine h)) contentTypeStart = true ↔ NamesContentType h := by
  have hstart : contentTypeStart.toList = contentTypeName.toList ++ [':', ' '] := rfl
  have hline := toList_headerLine (shownHeader h)
  rw [headerLine_shownHeader] at hline
  rw [startsWith, lower, String.toList_ofList, List.isPrefixOf_iff_prefix, hstart]
  constructor
  · intro hprefix
    have halone : ∀ d ∈ contentTypeName.toList ++ [':', ' '], ComesAlone d := by
      simp [contentTypeName, ComesAlone]
    obtain ⟨front, back, hsplit, hmap, hfront⟩ := exists_prefix_of_lowerFrom halone hprefix
    obtain ⟨name, mark, rfl, hname, hmark⟩ := List.map_eq_append_iff.1 hmap
    -- the colon and the space are lower-case forms of nothing but themselves
    have hlength : mark.length = 2 := by simpa using congrArg List.length hmark
    obtain ⟨x, y, rfl⟩ := List.length_eq_two.1 hlength
    obtain ⟨hx, hy⟩ : lowerChar x = ':' ∧ lowerChar y = ' ' := by simpa using hmark
    obtain rfl := eq_of_lowerChar_eq hx (by decide) (by decide)
    obtain rfl := eq_of_lowerChar_eq hy (by decide) (by decide)
    have hfree : occursIn [':', ' '] name = false := by
      refine occursIn_of_not_mem fun hmem => ?_
      have hcolon : lowerChar ':' ∈ contentTypeName.toList := hname ▸ List.mem_map_of_mem hmem
      revert hcolon
      decide
    rw [List.append_assoc] at hsplit
    have hread : readHeader? (headerLine h) = some (String.ofList name, String.ofList back) := by
      rw [readHeader?, hsplit]
      exact congrArg (Option.map _) (splitHeader_append hfree)
    rw [readHeader?_headerLine] at hread
    have hlower := @lowerFrom_append [] name [] (List.forall_mem_append.1 hfront).1
    rw [NamesContentType, Option.some.inj hread, lower, String.toList_ofList]
    rw [List.append_nil, hname, lowerFrom, List.append_nil] at hlower
    rw [hlower, String.ofList_toList]
  · intro hname
    obtain ⟨-, halone⟩ := hname.length_eq
    have hlower : lowerFrom [] (shownHeader h).1.toList = contentTypeName.toList := by
      simpa [lower] using congrArg String.toList hname
    have hmap := (map_lowerChar_of_lowerFrom comesAlone_contentTypeName hlower).1
    rw [hline, lowerFrom_append halone, hmap]
    exact (List.prefix_append_right_inj _).2 ⟨_, rfl⟩

/-- The value of a header that names the content type stands behind the name. -/
theorem NamesContentType.drop_eq (hname : NamesContentType h) :
    drop contentTypeStart.length (headerLine h) = (shownHeader h).2 := by
  have hline := toList_headerLine (shownHeader h)
  rw [headerLine_shownHeader] at hline
  have hlength : contentTypeStart.length = (shownHeader h).1.toList.length + 2 :=
    congrArg (· + 2) hname.length_eq.1.symm
  rw [drop, hline, hlength, List.drop_append]
  simp

end ContentType

section Arguments

/-- Arguments are read in one way, whatever comes behind them. -/
def Reads (r : CurlReading) (args : List String) (next : CurlReading) : Prop :=
  ∀ rest, readCurl r (args ++ rest) = readCurl next rest

variable {r next last : CurlReading} {args more : List String}

theorem Reads.nil (r : CurlReading) : Reads r [] r := fun _ => rfl

theorem Reads.append (h : Reads r args next) (hmore : Reads next more last) :
    Reads r (args ++ more) last := fun rest => by
  rw [List.append_assoc, h, hmore]

theorem reads_method (r : CurlReading) (method : String) :
    Reads r ["-X", method] { r with method } := fun rest => by
  simp [readCurl, curlFlag?]

theorem reads_header (r : CurlReading) (line : String) :
    Reads r ["-H", line] { r with headers := r.headers ++ [line] } := fun rest => by
  simp [readCurl, curlFlag?]

/-- The arguments of headers. -/
def headerArguments (headers : List (String × String)) : List String :=
  headers.flatMap fun h => ["-H", headerLine h]

theorem length_headerArguments (headers : List (String × String)) :
    (headerArguments headers).length = 2 * headers.length := by
  induction headers with
  | nil => rfl
  | cons h headers ih =>
      rw [headerArguments, List.flatMap_cons, List.length_append, ← headerArguments, ih]
      simp
      omega

theorem reads_headers (r : CurlReading) (headers : List (String × String)) :
    Reads r (headerArguments headers)
      { r with headers := r.headers ++ headers.map headerLine } := by
  induction headers generalizing r with
  | nil =>
      rw [List.map_nil, List.append_nil]
      exact .nil r
  | cons h headers ih =>
      have hrest := ih { r with headers := r.headers ++ [headerLine h] }
      rw [headerArguments, List.flatMap_cons, ← headerArguments]
      rw [List.append_assoc, List.singleton_append] at hrest
      exact (reads_header r (headerLine h)).append hrest

theorem presentText_of_ne {s : String} (h : s ≠ "") : presentText (some s) = some s := by
  simp [presentText, Option.filter, h]

/-- Arguments that are only written for a text that is there and not empty. -/
theorem reads_optional {write : String → List String} (change : Option String → CurlReading)
    (hnone : change none = r) (hsome : ∀ s, Reads r (write s) (change (some s)))
    (value : Option String) :
    Reads r (match value with | some s => if s = "" then [] else write s | none => [])
      (change (presentText value)) := by
  subst hnone
  cases value with
  | none => exact .nil _
  | some s =>
      by_cases hs : s = ""
      · subst hs
        exact .nil _
      · simpa only [hs, if_false, presentText_of_ne hs] using hsome s

theorem reads_body (r : CurlReading) (body : Option String) :
    Reads r (flagged "-d" body) { r with body := (presentText body).or r.body } :=
  reads_optional (fun o => { r with body := o.or r.body }) rfl
    (fun s rest => by simp [readCurl, curlFlag?]) body

theorem reads_outputFile (r : CurlReading) (outputFile : Option String) :
    Reads r (flagged "-o" outputFile) { r with output := (presentText outputFile).or r.output } :=
  reads_optional (fun o => { r with output := o.or r.output }) rfl
    (fun s rest => by simp [readCurl, curlFlag?]) outputFile

/-- The arguments of a content type. -/
def contentTypeArguments (contentType : Option String) : List String :=
  match contentType with
  | some s => if s = "" then [] else ["-H", "Content-Type: " ++ s]
  | none => []

theorem reads_contentType (r : CurlReading) (contentType : Option String) :
    Reads r (contentTypeArguments contentType)
      { r with
        headers := r.headers ++ ((presentText contentType).map ("Content-Type: " ++ ·)).toList } :=
  reads_optional
    (fun o => { r with headers := r.headers ++ (o.map ("Content-Type: " ++ ·)).toList }) (by simp)
    (fun s => reads_header r ("Content-Type: " ++ s)) contentType

theorem reads_redirects (r : CurlReading) (follow : Bool) :
    Reads r (if follow then ["-L"] else []) { r with follow := follow || r.follow } := by
  cases follow with
  | false => exact .nil r
  | true =>
      intro rest
      cases rest <;> simp [readCurl, curlFlag?]

/-- An address that does not begin like a flag is read as the address. -/
theorem reads_url {url : String} (hurl : startsWith url "-" = false) (hnone : r.url = none) :
    Reads r (if url = "" then [] else [url]) { r with url := presentText (some url) } := by
  have hne : ∀ flag, startsWith flag "-" = true → url ≠ flag := by
    rintro flag hflag rfl
    simp [hurl] at hflag
  have hflag : curlFlag? url = none := by
    simp [curlFlag?, hne "-X" rfl, hne "--request" rfl, hne "-H" rfl, hne "--header" rfl,
      hne "-d" rfl, hne "--data" rfl, hne "--max-time" rfl, hne "-o" rfl, hne "--output" rfl]
  by_cases hempty : url = ""
  · rw [hempty, if_pos rfl, show presentText (some "") = r.url from hnone.symm]
    exact .nil r
  · rw [if_neg hempty, presentText_of_ne hempty]
    intro rest
    cases rest <;> simp [readCurl, hflag, hurl, hnone, hne "-L" rfl, hne "--location" rfl]

/-- The decimal text of a time limit is read as the limit, unless it is too long. -/
theorem readCurl_limit (r : CurlReading) (n : Nat) (rest : List String) :
    readCurl r ("--max-time" :: toString (n : Int) :: rest) =
      if maxDigits < (toString n).length then
        .error ⟨toString n, .tooLong (toString n).length⟩
      else readCurl { r with timeout := some (n : Int) } rest := by
  have htext : toString (n : Int) = toString n := rfl
  have hflag : curlFlag? "--max-time" = some .maxTime := rfl
  rw [htext, readCurl, hflag]
  simp only [isDigitText_toString, if_true, requireInteger, readInteger_toString]
  by_cases hlong : maxDigits < (toString n).length
  · rw [if_pos hlong, if_pos hlong]
    rfl
  · rw [if_neg hlong, if_neg hlong]
    rfl

end Arguments

section Whole

variable {c : HttpConfig}

/-- The arguments in front of the time limit. -/
def openingArguments (c : HttpConfig) : List String :=
  ["-X", if c.method = "" then "GET" else c.method] ++ headerArguments c.headers.entries ++
    flagged "-d" c.body ++ contentTypeArguments c.contentType

/-- The arguments of the time limit. -/
def limitArguments (c : HttpConfig) : List String :=
  match c.timeoutSeconds with
  | some n => if n = 0 then [] else ["--max-time", toString n]
  | none => []

/-- The arguments behind the time limit. -/
def closingArguments (c : HttpConfig) : List String :=
  (if c.followRedirects then ["-L"] else []) ++
  flagged "-o" c.outputFile ++
  (if c.url = "" then [] else [c.url])

theorem curlArguments_eq (c : HttpConfig) :
    c.curlArguments = openingArguments c ++ (limitArguments c ++ closingArguments c) := by
  simp only [curlArguments, openingArguments, limitArguments, closingArguments, List.append_assoc]
  rfl

/-- What is read in front of the time limit. -/
def openingReading (c : HttpConfig) : CurlReading where
  method := if c.method = "" then "GET" else c.method
  headers := c.headers.entries.map headerLine ++
    ((presentText c.contentType).map ("Content-Type: " ++ ·)).toList
  body := presentText c.body

/-- What is read of all arguments. -/
def reading (c : HttpConfig) : CurlReading :=
  { openingReading c with
    timeout := c.timeoutSeconds.filter (· ≠ 0)
    follow := c.followRedirects
    output := presentText c.outputFile
    url := presentText (some c.url) }

theorem reads_openingArguments (c : HttpConfig) :
    Reads {} (openingArguments c) (openingReading c) := by
  have hread := (((reads_method {} (if c.method = "" then "GET" else c.method)).append
    (reads_headers _ c.headers.entries)).append (reads_body _ c.body)).append
      (reads_contentType _ c.contentType)
  simp only [List.nil_append, Option.or_none] at hread
  exact hread

theorem reads_limitArguments (hlimit : Printable c.timeoutSeconds) :
    Reads (openingReading c) (limitArguments c)
      { openingReading c with timeout := c.timeoutSeconds.filter (· ≠ 0) } := by
  rw [limitArguments]
  cases hvalue : c.timeoutSeconds with
  | none => exact .nil _
  | some k =>
      obtain ⟨hnonneg, hlength⟩ := hlimit k hvalue
      obtain ⟨n, rfl⟩ := Int.eq_ofNat_of_zero_le hnonneg
      by_cases hzero : (n : Int) = 0
      · rw [hzero]
        exact .nil _
      · intro rest
        have hshort : ¬ maxDigits < (toString n).length := Nat.not_lt.2 hlength
        simp only [hzero, if_false]
        rw [List.cons_append, List.cons_append, List.nil_append, readCurl_limit, if_neg hshort]
        rw [Option.filter_some_pos (by simpa using hzero)]

theorem reads_closingArguments (c : HttpConfig) (hurl : startsWith c.url "-" = false) :
    Reads { openingReading c with timeout := c.timeoutSeconds.filter (· ≠ 0) }
      (closingArguments c) (reading c) := by
  have hread := ((reads_redirects { openingReading c with
      timeout := c.timeoutSeconds.filter (· ≠ 0) } c.followRedirects).append
    (reads_outputFile _ c.outputFile)).append (reads_url hurl rfl)
  simp only [openingReading, Bool.or_false, Option.or_none] at hread
  exact hread

/-- All that is written is read. -/
theorem readCurl_curlArguments (hurl : startsWith c.url "-" = false)
    (hlimit : Printable c.timeoutSeconds) :
    readCurl {} c.curlArguments = .ok (some (reading c)) := by
  have hread := ((reads_openingArguments c).append ((reads_limitArguments hlimit).append
    (reads_closingArguments c hurl))) []
  rw [List.append_nil, ← curlArguments_eq] at hread
  rw [hread, readCurl]

/-- The reading stops at a time limit with too many digits. -/
theorem ofCurl?_of_tooLong {n : Nat} (hlimit : c.timeoutSeconds = some (n : Int))
    (hlong : maxDigits < (toString n).length) :
    ofCurl? c.curlArguments = .error ⟨toString n, .tooLong (toString n).length⟩ := by
  have hzero : (n : Int) ≠ 0 := by
    intro h
    obtain rfl : n = 0 := by omega
    revert hlong
    decide
  have hstop : readCurl {} c.curlArguments =
      .error ⟨toString n, .tooLong (toString n).length⟩ := by
    rw [curlArguments_eq, reads_openingArguments c, limitArguments, hlimit]
    simp only [hzero, if_false]
    rw [List.cons_append, List.cons_append, List.nil_append, readCurl_limit, if_pos hlong]
  rw [ofCurl?, hstop]
  rfl

end Whole

section Requests

variable {c : HttpConfig}

/-- The headers that come back as headers, and the content type that comes back: the one of the
request, or the one that its last header names. -/
def keptHeaders (c : HttpConfig) : List (String × String) × Option String :=
  match presentText c.contentType, c.headers.entries.getLast? with
  | some s, _ => (c.headers.entries, some s)
  | none, some last =>
    if NamesContentType last then (c.headers.entries.dropLast, some (shownHeader last).2)
    else (c.headers.entries, none)
  | none, none => (c.headers.entries, none)

/-- The content type is written as a header of its own name. -/
theorem contentType_line (s : String) : "Content-Type: " ++ s = headerLine ("Content-Type", s) :=
  rfl

theorem shownHeader_contentType (s : String) :
    shownHeader ("Content-Type", s) = ("Content-Type", s) :=
  shownHeader_eq_self (show contains "Content-Type" ": " = false by decide +kernel)

theorem namesContentType_contentType (s : String) : NamesContentType ("Content-Type", s) := by
  rw [NamesContentType, shownHeader_contentType]
  exact (by decide +kernel : lower "Content-Type" = contentTypeName)

/-- The headers that are read are those that are kept. -/
theorem splitContentType_headers (c : HttpConfig) :
    splitContentType (openingReading c).headers =
      ((keptHeaders c).1.map headerLine, (keptHeaders c).2) := by
  rw [openingReading, splitContentType, keptHeaders]
  cases presentText c.contentType with
  | some s =>
      have hname := namesContentType_contentType s
      have hstart := (startsWith_lower_headerLine _).2 hname
      have hvalue := hname.drop_eq
      rw [shownHeader_contentType] at hvalue
      simp [contentType_line, hstart, hvalue]
  | none =>
      cases hlast : c.headers.entries.getLast? with
      | none => simp [hlast]
      | some last =>
          by_cases hname : NamesContentType last
          · have hstart := (startsWith_lower_headerLine _).2 hname
            simp [hlast, hname, hstart, hname.drop_eq, List.map_dropLast]
          · have hstart := mt (startsWith_lower_headerLine _).1 hname
            simp [hlast, hname, hstart]

theorem mapM_readHeader? (headers : List (String × String)) :
    (headers.map headerLine).mapM readHeader? = some (headers.map shownHeader) := by
  induction headers with
  | nil => rfl
  | cons h headers ih =>
      rw [List.map_cons, List.mapM_cons, readHeader?_headerLine, ih]
      rfl

/-- The request that comes back. -/
def comesBack (c : HttpConfig) : HttpConfig where
  url := c.url
  method := if c.method = "" then "GET" else c.method
  headers := Table.ofList ((keptHeaders c).1.map shownHeader)
  body := presentText c.body
  contentType := (keptHeaders c).2
  timeoutSeconds := c.timeoutSeconds.filter (· ≠ 0)
  followRedirects := c.followRedirects
  outputFile := presentText c.outputFile

/-- Which request is read from the arguments that are written for one. -/
theorem ofCurl?_curlArguments (hurl : startsWith c.url "-" = false)
    (hlimit : Printable c.timeoutSeconds) :
    ofCurl? c.curlArguments = .ok (some (comesBack c)) := by
  have hheaders := splitContentType_headers c
  have haddress : (presentText (some c.url)).getD "" = c.url := presentText_getD c.url
  rw [ofCurl?, readCurl_curlArguments hurl hlimit]
  simp only [bind, Except.bind, reading, hheaders, mapM_readHeader?, haddress]
  rfl

end Requests

section RoundTrip

variable {c : HttpConfig}

/-- A request that its command tells in full. -/
structure IsTold (c : HttpConfig) : Prop where
  method : c.method ≠ ""
  url : startsWith c.url "-" = false
  body : c.body ≠ some ""
  contentType : c.contentType ≠ some ""
  outputFile : c.outputFile ≠ some ""
  limit : ∀ k ∈ c.timeoutSeconds, 0 < k
  names : ∀ h ∈ c.headers.entries, contains h.1 ": " = false
  /-- A last header that names the content type would be taken for it. -/
  last : c.contentType = none → ∀ h ∈ c.headers.entries.getLast?, lower h.1 ≠ "content-type"

theorem presentText_eq_self {value : Option String} (h : value ≠ some "") :
    presentText value = value := by
  cases value with
  | none => rfl
  | some s => exact presentText_of_ne fun hs => h (hs ▸ rfl)

theorem IsTold.keptHeaders_eq (h : IsTold c) :
    keptHeaders c = (c.headers.entries, c.contentType) := by
  rw [keptHeaders, presentText_eq_self h.contentType]
  cases hcontent : c.contentType with
  | some s => rfl
  | none =>
      cases hlast : c.headers.entries.getLast? with
      | none => rfl
      | some last =>
          have hmem : last ∈ c.headers.entries := List.mem_of_getLast? hlast
          have hname : ¬ NamesContentType last := by
            rw [NamesContentType, shownHeader_eq_self (h.names last hmem)]
            exact h.last hcontent last hlast
          exact if_neg hname

end RoundTrip

section Stability

variable {c : HttpConfig} {front : List (String × String)} {last : String × String}

/-- A request whose command is written again for the request that is read from it. -/
structure CommandStays (c : HttpConfig) : Prop where
  /-- Headers that are read under one name would become one header. -/
  names : ((keptHeaders c).1.map fun h => (shownHeader h).1).Nodup
  /-- A last header that is taken for the content type is written behind the body, under the name
  that the content type has there, and only with a value. -/
  last : presentText c.contentType = none → ∀ h ∈ c.headers.entries.getLast?, NamesContentType h →
    presentText c.body = none ∧ (shownHeader h).1 = "Content-Type" ∧ (shownHeader h).2 ≠ ""

/-- Arguments that are only written for a text that is not empty do not tell an empty one from
none. -/
theorem optional_presentText (write : String → List String) (value : Option String) :
    (match presentText value with | some s => if s = "" then [] else write s | none => []) =
      match value with | some s => if s = "" then [] else write s | none => [] := by
  cases value with
  | none => rfl
  | some s =>
      by_cases hs : s = ""
      · subst hs
        rfl
      · rw [presentText_of_ne hs]

theorem flagged_presentText (flag : String) (value : Option String) :
    flagged flag (presentText value) = flagged flag value :=
  optional_presentText (fun s => [flag, s]) value

theorem flagged_of_absent {flag : String} {value : Option String} (h : presentText value = none) :
    flagged flag value = [] := by
  rw [← flagged_presentText, h]
  rfl

theorem flagged_of_present {flag s : String} {value : Option String}
    (h : presentText value = some s) : flagged flag value = [flag, s] := by
  have hne : s ≠ "" := by
    have hfilter := (Option.filter_eq_some_iff.1 h).2
    simpa using hfilter
  rw [← flagged_presentText, h]
  exact if_neg hne

theorem contentTypeArguments_presentText (contentType : Option String) :
    contentTypeArguments (presentText contentType) = contentTypeArguments contentType :=
  optional_presentText (fun s => ["-H", "Content-Type: " ++ s]) contentType

theorem contentTypeArguments_of_ne {s : String} (h : s ≠ "") :
    contentTypeArguments (some s) = headerArguments [("Content-Type", s)] :=
  if_neg h

theorem limitArguments_comesBack (c : HttpConfig) :
    limitArguments (comesBack c) = limitArguments c := by
  simp only [limitArguments, comesBack]
  cases hvalue : c.timeoutSeconds with
  | none => rfl
  | some k =>
      by_cases hzero : k = 0
      · subst hzero
        rfl
      · rw [Option.filter_some_pos (by simpa using hzero)]

theorem closingArguments_comesBack (c : HttpConfig) :
    closingArguments (comesBack c) = closingArguments c := by
  rw [closingArguments, closingArguments, ← flagged_presentText "-o" c.outputFile]
  rfl

/-- The command stays when its headers, its body and its content type do. -/
theorem curlArguments_comesBack_iff (c : HttpConfig) :
    (comesBack c).curlArguments = c.curlArguments ↔
      headerArguments (comesBack c).headers.entries ++
          (flagged "-d" c.body ++ contentTypeArguments (keptHeaders c).2) =
        headerArguments c.headers.entries ++
          (flagged "-d" c.body ++ contentTypeArguments c.contentType) := by
  have hmethod : (if (comesBack c).method = "" then "GET" else (comesBack c).method) =
      if c.method = "" then "GET" else c.method := by
    by_cases hempty : c.method = "" <;> simp [comesBack, hempty]
  have hbody : flagged "-d" (comesBack c).body = flagged "-d" c.body := flagged_presentText ..
  have hcontent : (comesBack c).contentType = (keptHeaders c).2 := rfl
  rw [curlArguments_eq, curlArguments_eq, limitArguments_comesBack, closingArguments_comesBack,
    List.append_left_inj, openingArguments, openingArguments, hmethod, hbody, hcontent]
  simp only [List.append_assoc, List.append_right_inj]

/-- Headers that are read under different names have the arguments that they had. -/
theorem headerArguments_ofList {headers : List (String × String)}
    (h : (headers.map fun h => (shownHeader h).1).Nodup) :
    headerArguments (Table.ofList (headers.map shownHeader)).entries = headerArguments headers := by
  rw [Table.entries_ofList (by simpa [Function.comp_def] using h), headerArguments,
    List.flatMap_map]
  simp only [headerLine_shownHeader]
  rfl

/-- Headers that have no fewer arguments than they had are read under different names. -/
theorem nodup_of_length_headerArguments {headers : List (String × String)}
    (h : (headerArguments headers).length ≤
      (headerArguments (Table.ofList (headers.map shownHeader)).entries).length) :
    (headers.map fun h => (shownHeader h).1).Nodup := by
  rw [length_headerArguments, length_headerArguments] at h
  have hle : (headers.map shownHeader).length ≤
      (Table.ofList (headers.map shownHeader)).entries.length := by
    rw [List.length_map]
    omega
  simpa [Function.comp_def] using Table.nodup_of_length_le hle

/-- A last header that is taken for the content type. -/
structure LastIsTaken (c : HttpConfig) (front : List (String × String)) (last : String × String) :
    Prop where
  content : presentText c.contentType = none
  entries : c.headers.entries = front ++ [last]
  named : NamesContentType last

theorem LastIsTaken.keptHeaders_eq (h : LastIsTaken c front last) :
    keptHeaders c = (front, some (shownHeader last).2) := by
  rw [keptHeaders, h.content, h.entries, List.getLast?_concat, List.dropLast_concat]
  exact if_pos h.named

/-- Without such a header all headers are kept. -/
theorem keptHeaders_of_not_taken (h : ∀ front last, ¬ LastIsTaken c front last) :
    keptHeaders c = (c.headers.entries, presentText c.contentType) := by
  rw [keptHeaders]
  cases hcontent : presentText c.contentType with
  | some s => rfl
  | none =>
      cases hlast : c.headers.entries.getLast? with
      | none => rfl
      | some last =>
          have hentries := (List.dropLast_append_getLast? last hlast).symm
          exact if_neg fun hnamed => h _ last ⟨hcontent, hentries, hnamed⟩

theorem LastIsTaken.commandStays_iff (h : LastIsTaken c front last) :
    CommandStays c ↔ (front.map fun h => (shownHeader h).1).Nodup ∧
      presentText c.body = none ∧ (shownHeader last).1 = "Content-Type" ∧
        (shownHeader last).2 ≠ "" := by
  have hlast : c.headers.entries.getLast? = some last := by rw [h.entries, List.getLast?_concat]
  constructor
  · intro hstays
    have hnames := hstays.names
    rw [h.keptHeaders_eq] at hnames
    exact ⟨hnames, hstays.last h.content last hlast h.named⟩
  · rintro ⟨hnames, hrest⟩
    refine ⟨by rwa [h.keptHeaders_eq], fun _ other hother _ => ?_⟩
    rw [hlast] at hother
    exact Option.some.inj hother ▸ hrest

theorem commandStays_iff_of_not_taken (h : ∀ front last, ¬ LastIsTaken c front last) :
    CommandStays c ↔ (c.headers.entries.map fun h => (shownHeader h).1).Nodup := by
  have hkept := keptHeaders_of_not_taken h
  constructor
  · intro hstays
    have hnames := hstays.names
    rwa [hkept] at hnames
  · intro hnames
    refine ⟨by rwa [hkept], fun hcontent last hlast hnamed => ?_⟩
    have hentries := (List.dropLast_append_getLast? last hlast).symm
    exact absurd ⟨hcontent, hentries, hnamed⟩ (h _ last)

/-- The case in which all headers are kept. -/
theorem stays_of_not_taken (h : ∀ front last, ¬ LastIsTaken c front last) :
    (comesBack c).curlArguments = c.curlArguments ↔ CommandStays c := by
  have hkept := keptHeaders_of_not_taken h
  have hheaders : (comesBack c).headers = Table.ofList (c.headers.entries.map shownHeader) := by
    rw [comesBack, hkept]
  rw [curlArguments_comesBack_iff, commandStays_iff_of_not_taken h, hkept,
    contentTypeArguments_presentText, List.append_left_inj, hheaders]
  constructor
  · intro heq
    exact nodup_of_length_headerArguments (congrArg List.length heq).ge
  · exact headerArguments_ofList

/-- Where a last header that became the content type is written again, the other headers were read
under different names, and it has a value. -/
theorem names_and_value_of_eq {body : List String} {line value : String}
    (h : headerArguments (Table.ofList (front.map shownHeader)).entries ++
        (body ++ contentTypeArguments (some value)) =
      headerArguments front ++ (["-H", line] ++ body)) :
    (front.map fun h => (shownHeader h).1).Nodup ∧ value ≠ "" := by
  have hlength := congrArg List.length h
  simp only [List.length_append, length_headerArguments, List.length_cons, List.length_nil]
    at hlength
  have hle : (Table.ofList (front.map shownHeader)).entries.length ≤ front.length := by
    simpa using (Table.entries_ofList_subperm (front.map shownHeader)).length_le
  have hvalue : value ≠ "" := by
    intro hvalue
    rw [hvalue, show contentTypeArguments (some "") = [] from rfl, List.length_nil] at hlength
    omega
  rw [contentTypeArguments_of_ne hvalue, length_headerArguments, List.length_singleton] at hlength
  refine ⟨nodup_of_length_headerArguments ?_, hvalue⟩
  rw [length_headerArguments, length_headerArguments]
  omega

/-- The case in which the last header is taken for the content type. -/
theorem LastIsTaken.stays (h : LastIsTaken c front last) :
    (comesBack c).curlArguments = c.curlArguments ↔ CommandStays c := by
  have hheaders : (comesBack c).headers = Table.ofList (front.map shownHeader) := by
    rw [comesBack, h.keptHeaders_eq]
  have hempty : contentTypeArguments c.contentType = [] := by
    rw [← contentTypeArguments_presentText, h.content]
    rfl
  have hsplit : headerArguments (front ++ [last]) =
      headerArguments front ++ ["-H", headerLine last] := List.flatMap_append
  rw [curlArguments_comesBack_iff, h.commandStays_iff, h.keptHeaders_eq, hheaders, h.entries,
    hempty, hsplit, List.append_nil, List.append_assoc]
  constructor
  · intro heq
    obtain ⟨hnames, hvalue⟩ := names_and_value_of_eq heq
    rw [headerArguments_ofList hnames, List.append_right_inj, contentTypeArguments_of_ne hvalue]
      at heq
    -- the body is written in front of the content type, but behind the headers
    have hbody : presentText c.body = none := by
      cases hbody : presentText c.body with
      | none => rfl
      | some body =>
          rw [flagged_of_present hbody] at heq
          exact absurd (List.cons.inj heq).1 (by decide)
    rw [flagged_of_absent hbody] at heq
    have hline : headerLine ("Content-Type", (shownHeader last).2) = headerLine last := by
      simpa [headerArguments] using heq
    have hshown : shownHeader last = ("Content-Type", (shownHeader last).2) := by
      rw [← shownHeader_contentType, shownHeader_congr hline]
    exact ⟨hnames, hbody, congrArg Prod.fst hshown, hvalue⟩
  · rintro ⟨hnames, hbody, hname, hvalue⟩
    have hline : headerLine ("Content-Type", (shownHeader last).2) = headerLine last := by
      rw [← hname, headerLine_shownHeader]
    rw [headerArguments_ofList hnames, flagged_of_absent hbody, contentTypeArguments_of_ne hvalue,
      ← hline]
    rfl

/-- The command of a request is read as some request, and the command of that one is the same
exactly for the requests of `CommandStays`. Only a time limit of more digits than an integer may
have is not read. -/
theorem command_stays_spec (hurl : startsWith c.url "-" = false)
    (hlimit : ∀ k ∈ c.timeoutSeconds, 0 < k) :
    (Printable c.timeoutSeconds → ∃ read, ofCurl? c.curlArguments = .ok (some read) ∧
      (read.curlArguments = c.curlArguments ↔ CommandStays c)) ∧
      (¬ Printable c.timeoutSeconds → ∃ n : Nat, c.timeoutSeconds = some (n : Int) ∧
        ofCurl? c.curlArguments = .error ⟨toString n, .tooLong (toString n).length⟩) := by
  constructor
  · intro hprintable
    refine ⟨comesBack c, ofCurl?_curlArguments hurl hprintable, ?_⟩
    by_cases htaken : ∃ front last, LastIsTaken c front last
    · obtain ⟨front, last, htaken⟩ := htaken
      exact htaken.stays
    · exact stays_of_not_taken fun front last h => htaken ⟨front, last, h⟩
  · intro hnot
    cases hvalue : c.timeoutSeconds with
    | none => simp [Printable, hvalue] at hnot
    | some k =>
        have hpos := hlimit k hvalue
        obtain ⟨n, rfl⟩ := Int.eq_ofNat_of_zero_le hpos.le
        refine ⟨n, rfl, ofCurl?_of_tooLong hvalue ?_⟩
        by_contra hshort
        refine hnot fun k hk => ?_
        rw [hvalue] at hk
        cases hk
        exact ⟨hpos.le, Nat.not_lt.1 hshort⟩

/-- A request whose last header is taken for the content type, and whose command stays. -/
theorem command_stays_spec_last :
    let c : HttpConfig := {
      url := "https://x.io", timeoutSeconds := some 5
      headers := Table.ofList [("Accept", "a: b"), ("Content-Type", "text/plain")] }
    startsWith c.url "-" = false ∧ (∀ k ∈ c.timeoutSeconds, 0 < k) ∧ Printable c.timeoutSeconds ∧
      CommandStays c ∧ ∃ read, read.contentType = some "text/plain" ∧
        ofCurl? c.curlArguments = .ok (some read) ∧ read.curlArguments = c.curlArguments := by
  intro c
  have hurl : startsWith c.url "-" = false := by decide +kernel
  have hlimit : ∀ k ∈ c.timeoutSeconds, 0 < k := by decide +kernel
  have hprintable : Printable c.timeoutSeconds := by
    simp only [c, Printable, Option.mem_some_iff, forall_eq']
    decide
  have hstays : CommandStays c := by
    constructor <;> decide +kernel
  obtain ⟨read, hread, hsame⟩ := (command_stays_spec hurl hlimit).1 hprintable
  have hcontent : read.contentType = some "text/plain" := by
    rw [ofCurl?_curlArguments hurl hprintable] at hread
    cases hread
    decide +kernel
  exact ⟨hurl, hlimit, hprintable, hstays, read, hcontent, hread, hsame.2 hstays⟩

/-- With a body the content type of the last header moves behind it. -/
theorem command_moves_content_type :
    let c : HttpConfig := {
      url := "https://x.io", headers := Table.ofList [("Content-Type", "text/plain")]
      body := some "b" }
    c.url ≠ "" ∧ startsWith c.url "-" = false ∧ c.timeoutSeconds = none ∧
      c.curlArguments = ["-X", "GET", "-H", "Content-Type: text/plain", "-d", "b", "-L",
        "https://x.io"] ∧
      ∃ read, ofCurl? c.curlArguments = .ok (some read) ∧ read.curlArguments =
        ["-X", "GET", "-d", "b", "-H", "Content-Type: text/plain", "-L", "https://x.io"] := by
  intro c
  have hurl : startsWith c.url "-" = false := by decide +kernel
  have hprintable : Printable c.timeoutSeconds := fun k hk => nomatch hk
  refine ⟨by decide +kernel, hurl, rfl, by decide +kernel, comesBack c,
    ofCurl?_curlArguments hurl hprintable, ?_⟩
  decide +kernel

end Stability

end BuildGraph.HttpConfig
