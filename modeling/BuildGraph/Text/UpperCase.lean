import BuildGraph.Text.CharClass

/-!
# Upper case

The upper-case form of a character may be longer than one character. This module holds the first
character of that form. The mapping is given by stretches `(first, count, step, shift)` for the code
points `first + k * step` with `k < count`, one list for the forms that come earlier in the order of
code points and one for those that come later.

Main definition: `upperPoint`.
-/

namespace BuildGraph.Text

/-- The stretches whose upper-case forms come earlier, by `shift` code points. -/
def earlierUpperStretches : List (Nat × Nat × Nat × Int) := [
  (97, 26, 1, 32), (223, 1, 1, 140), (224, 23, 1, 32), (248, 7, 1, 32), (257, 24, 2, 1),
  (305, 1, 1, 232), (307, 3, 2, 1), (314, 8, 2, 1), (331, 23, 2, 1), (378, 3, 2, 1),
  (383, 1, 1, 300), (387, 2, 2, 1), (392, 1, 1, 1), (396, 1, 1, 1), (402, 1, 1, 1), (409, 1, 1, 1),
  (417, 3, 2, 1), (424, 1, 1, 1), (429, 1, 1, 1), (432, 1, 1, 1), (436, 2, 2, 1), (441, 1, 1, 1),
  (445, 1, 1, 1), (453, 1, 1, 1), (454, 1, 1, 2), (456, 1, 1, 1), (457, 1, 1, 2), (459, 1, 1, 1),
  (460, 1, 1, 2), (462, 8, 2, 1), (477, 1, 1, 79), (479, 9, 2, 1), (496, 1, 1, 422),
  (498, 1, 1, 1), (499, 1, 1, 2), (501, 1, 1, 1), (505, 20, 2, 1), (547, 9, 2, 1), (572, 1, 1, 1),
  (578, 1, 1, 1), (583, 5, 2, 1), (595, 1, 1, 210), (596, 1, 1, 206), (598, 2, 1, 205),
  (601, 1, 1, 202), (603, 1, 1, 203), (608, 1, 1, 205), (611, 1, 1, 207), (616, 1, 1, 209),
  (617, 1, 1, 211), (623, 1, 1, 211), (626, 1, 1, 213), (629, 1, 1, 214), (640, 1, 1, 218),
  (643, 1, 1, 218), (648, 1, 1, 218), (649, 1, 1, 69), (650, 2, 1, 217), (652, 1, 1, 71),
  (658, 1, 1, 219), (881, 2, 2, 1), (887, 1, 1, 1), (940, 1, 1, 38), (941, 3, 1, 37),
  (944, 1, 1, 11), (945, 17, 1, 32), (962, 1, 1, 31), (963, 9, 1, 32), (972, 1, 1, 64),
  (973, 2, 1, 63), (976, 1, 1, 62), (977, 1, 1, 57), (981, 1, 1, 47), (982, 1, 1, 54),
  (983, 1, 1, 8), (985, 12, 2, 1), (1008, 1, 1, 86), (1009, 1, 1, 80), (1011, 1, 1, 116),
  (1013, 1, 1, 96), (1016, 1, 1, 1), (1019, 1, 1, 1), (1072, 32, 1, 32), (1104, 16, 1, 80),
  (1121, 17, 2, 1), (1163, 27, 2, 1), (1218, 7, 2, 1), (1231, 1, 1, 15), (1233, 48, 2, 1),
  (1377, 38, 1, 48), (1415, 1, 1, 82), (5112, 6, 1, 8), (7296, 1, 1, 6254), (7297, 1, 1, 6253),
  (7298, 1, 1, 6244), (7299, 2, 1, 6242), (7301, 1, 1, 6243), (7302, 1, 1, 6236),
  (7303, 1, 1, 6181), (7681, 75, 2, 1), (7830, 1, 1, 7758), (7831, 1, 1, 7747), (7832, 1, 1, 7745),
  (7833, 1, 1, 7744), (7834, 1, 1, 7769), (7835, 1, 1, 59), (7841, 48, 2, 1), (8016, 1, 1, 7083),
  (8018, 1, 1, 7085), (8020, 1, 1, 7087), (8022, 1, 1, 7089), (8064, 8, 1, 120), (8072, 8, 1, 128),
  (8080, 8, 1, 104), (8088, 8, 1, 112), (8096, 8, 1, 56), (8104, 8, 1, 64), (8115, 1, 1, 7202),
  (8116, 1, 1, 7214), (8118, 1, 1, 7205), (8119, 1, 1, 7206), (8124, 1, 1, 7211),
  (8126, 1, 1, 7205), (8131, 1, 1, 7212), (8132, 1, 1, 7227), (8134, 1, 1, 7215),
  (8135, 1, 1, 7216), (8140, 1, 1, 7221), (8146, 1, 1, 7225), (8147, 1, 1, 7226),
  (8150, 1, 1, 7229), (8151, 1, 1, 7230), (8162, 1, 1, 7229), (8163, 1, 1, 7230),
  (8164, 1, 1, 7235), (8166, 1, 1, 7233), (8167, 1, 1, 7234), (8179, 1, 1, 7242),
  (8180, 1, 1, 7269), (8182, 1, 1, 7245), (8183, 1, 1, 7246), (8188, 1, 1, 7251), (8526, 1, 1, 28),
  (8560, 16, 1, 16), (8580, 1, 1, 1), (9424, 26, 1, 26), (11312, 48, 1, 48), (11361, 1, 1, 1),
  (11365, 1, 1, 10795), (11366, 1, 1, 10792), (11368, 3, 2, 1), (11379, 1, 1, 1), (11382, 1, 1, 1),
  (11393, 50, 2, 1), (11500, 2, 2, 1), (11507, 1, 1, 1), (11520, 38, 1, 7264), (11559, 1, 1, 7264),
  (11565, 1, 1, 7264), (42561, 23, 2, 1), (42625, 14, 2, 1), (42787, 7, 2, 1), (42803, 31, 2, 1),
  (42874, 2, 2, 1), (42879, 5, 2, 1), (42892, 1, 1, 1), (42897, 2, 2, 1), (42903, 10, 2, 1),
  (42933, 8, 2, 1), (42952, 2, 2, 1), (42961, 1, 1, 1), (42967, 2, 2, 1), (42998, 1, 1, 1),
  (43859, 1, 1, 928), (43888, 80, 1, 38864), (64256, 1, 1, 64186), (64257, 1, 1, 64187),
  (64258, 1, 1, 64188), (64259, 1, 1, 64189), (64260, 1, 1, 64190), (64261, 1, 1, 64178),
  (64262, 1, 1, 64179), (64275, 1, 1, 62927), (64276, 1, 1, 62928), (64277, 1, 1, 62929),
  (64278, 1, 1, 62920), (64279, 1, 1, 62931), (65345, 26, 1, 32), (66600, 40, 1, 40),
  (66776, 36, 1, 40), (66967, 11, 1, 39), (66979, 15, 1, 39), (66995, 7, 1, 39), (67003, 2, 1, 39),
  (68800, 51, 1, 64), (71872, 32, 1, 32), (93792, 32, 1, 32), (125218, 34, 1, 34)]

/-- The stretches whose upper-case forms come later, by `shift` code points. -/
def laterUpperStretches : List (Nat × Nat × Nat × Int) := [
  (181, 1, 1, 743), (255, 1, 1, 121), (329, 1, 1, 371), (384, 1, 1, 195), (405, 1, 1, 97),
  (410, 1, 1, 163), (414, 1, 1, 130), (447, 1, 1, 56), (575, 2, 1, 10815), (592, 1, 1, 10783),
  (593, 1, 1, 10780), (594, 1, 1, 10782), (604, 1, 1, 42319), (609, 1, 1, 42315),
  (613, 1, 1, 42280), (614, 1, 1, 42308), (618, 1, 1, 42308), (619, 1, 1, 10743),
  (620, 1, 1, 42305), (625, 1, 1, 10749), (637, 1, 1, 10727), (642, 1, 1, 42307),
  (647, 1, 1, 42282), (669, 1, 1, 42261), (670, 1, 1, 42258), (837, 1, 1, 84), (891, 3, 1, 130),
  (912, 1, 1, 9), (1010, 1, 1, 7), (4304, 43, 1, 3008), (4349, 3, 1, 3008), (7304, 1, 1, 35266),
  (7545, 1, 1, 35332), (7549, 1, 1, 3814), (7566, 1, 1, 35384), (7936, 8, 1, 8), (7952, 6, 1, 8),
  (7968, 8, 1, 8), (7984, 8, 1, 8), (8000, 6, 1, 8), (8017, 4, 2, 8), (8032, 8, 1, 8),
  (8048, 2, 1, 74), (8050, 4, 1, 86), (8054, 2, 1, 100), (8056, 2, 1, 128), (8058, 2, 1, 112),
  (8060, 2, 1, 126), (8112, 3, 1, 8), (8130, 1, 1, 8), (8144, 2, 1, 8), (8160, 2, 1, 8),
  (8165, 1, 1, 7), (8178, 1, 1, 8), (42900, 1, 1, 48)]

/-- The first code point of the upper-case form of a code point. -/
def upperPoint (n : Nat) : Nat :=
  (n + stretchShift laterUpperStretches n - stretchShift earlierUpperStretches n).toNat

end BuildGraph.Text
