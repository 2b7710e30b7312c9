import BuildTree.Text.Runs

/-!
# Letter case

The single-character case mappings of Unicode 14, and the few lower case letters that are one letter when case is
ignored although neither is the lower case of the other. Where the upper case of a character is several
characters, the first of them counts.
-/

namespace BuildTree.Text

/-- Stretches `(first, count, step, image)` of code points whose lower case lies as far from `image` as they lie from
`first`. -/
def lowerStretches : List (Nat × Nat × Nat × Nat) := [
  (192, 23, 1, 224), (216, 7, 1, 248), (256, 24, 2, 257), (304, 1, 1, 105), (306, 3, 2, 307), (313,
  8, 2, 314), (330, 23, 2, 331), (376, 1, 1, 255), (377, 3, 2, 378), (385, 1, 1, 595), (386, 2, 2,
  387), (390, 1, 1, 596), (391, 1, 1, 392), (393, 2, 1, 598), (395, 1, 1, 396), (398, 1, 1, 477),
  (399, 1, 1, 601), (400, 1, 1, 603), (401, 1, 1, 402), (403, 1, 1, 608), (404, 1, 1, 611), (406, 1,
  1, 617), (407, 1, 1, 616), (408, 1, 1, 409), (412, 1, 1, 623), (413, 1, 1, 626), (415, 1, 1, 629),
  (416, 3, 2, 417), (422, 1, 1, 640), (423, 1, 1, 424), (425, 1, 1, 643), (428, 1, 1, 429), (430, 1,
  1, 648), (431, 1, 1, 432), (433, 2, 1, 650), (435, 2, 2, 436), (439, 1, 1, 658), (440, 1, 1, 441),
  (444, 1, 1, 445), (452, 1, 1, 454), (453, 1, 1, 454), (455, 1, 1, 457), (456, 1, 1, 457), (458, 1,
  1, 460), (459, 9, 2, 460), (478, 9, 2, 479), (497, 1, 1, 499), (498, 2, 2, 499), (502, 1, 1, 405),
  (503, 1, 1, 447), (504, 20, 2, 505), (544, 1, 1, 414), (546, 9, 2, 547), (570, 1, 1, 11365), (571,
  1, 1, 572), (573, 1, 1, 410), (574, 1, 1, 11366), (577, 1, 1, 578), (579, 1, 1, 384), (580, 1, 1,
  649), (581, 1, 1, 652), (582, 5, 2, 583), (880, 2, 2, 881), (886, 1, 1, 887), (895, 1, 1, 1011),
  (902, 1, 1, 940), (904, 3, 1, 941), (908, 1, 1, 972), (910, 2, 1, 973), (913, 17, 1, 945), (931,
  9, 1, 963), (975, 1, 1, 983), (984, 12, 2, 985), (1012, 1, 1, 952), (1015, 1, 1, 1016), (1017, 1,
  1, 1010), (1018, 1, 1, 1019), (1021, 3, 1, 891), (1024, 16, 1, 1104), (1040, 32, 1, 1072), (1120,
  17, 2, 1121), (1162, 27, 2, 1163), (1216, 1, 1, 1231), (1217, 7, 2, 1218), (1232, 48, 2, 1233),
  (1329, 38, 1, 1377), (4256, 38, 1, 11520), (4295, 1, 1, 11559), (4301, 1, 1, 11565), (5024, 80, 1,
  43888), (5104, 6, 1, 5112), (7312, 43, 1, 4304), (7357, 3, 1, 4349), (7680, 75, 2, 7681), (7838,
  1, 1, 223), (7840, 48, 2, 7841), (7944, 8, 1, 7936), (7960, 6, 1, 7952), (7976, 8, 1, 7968),
  (7992, 8, 1, 7984), (8008, 6, 1, 8000), (8025, 4, 2, 8017), (8040, 8, 1, 8032), (8072, 8, 1,
  8064), (8088, 8, 1, 8080), (8104, 8, 1, 8096), (8120, 2, 1, 8112), (8122, 2, 1, 8048), (8124, 1,
  1, 8115), (8136, 4, 1, 8050), (8140, 1, 1, 8131), (8152, 2, 1, 8144), (8154, 2, 1, 8054), (8168,
  2, 1, 8160), (8170, 2, 1, 8058), (8172, 1, 1, 8165), (8184, 2, 1, 8056), (8186, 2, 1, 8060),
  (8188, 1, 1, 8179), (8486, 1, 1, 969), (8490, 1, 1, 107), (8491, 1, 1, 229), (8498, 1, 1, 8526),
  (8544, 16, 1, 8560), (8579, 1, 1, 8580), (9398, 26, 1, 9424), (11264, 48, 1, 11312), (11360, 1, 1,
  11361), (11362, 1, 1, 619), (11363, 1, 1, 7549), (11364, 1, 1, 637), (11367, 3, 2, 11368), (11373,
  1, 1, 593), (11374, 1, 1, 625), (11375, 1, 1, 592), (11376, 1, 1, 594), (11378, 1, 1, 11379),
  (11381, 1, 1, 11382), (11390, 2, 1, 575), (11392, 50, 2, 11393), (11499, 2, 2, 11500), (11506, 1,
  1, 11507), (42560, 23, 2, 42561), (42624, 14, 2, 42625), (42786, 7, 2, 42787), (42802, 31, 2,
  42803), (42873, 2, 2, 42874), (42877, 1, 1, 7545), (42878, 5, 2, 42879), (42891, 1, 1, 42892),
  (42893, 1, 1, 613), (42896, 2, 2, 42897), (42902, 10, 2, 42903), (42922, 1, 1, 614), (42923, 1, 1,
  604), (42924, 1, 1, 609), (42925, 1, 1, 620), (42926, 1, 1, 618), (42928, 1, 1, 670), (42929, 1,
  1, 647), (42930, 1, 1, 669), (42931, 1, 1, 43859), (42932, 8, 2, 42933), (42948, 1, 1, 42900),
  (42949, 1, 1, 642), (42950, 1, 1, 7566), (42951, 2, 2, 42952), (42960, 1, 1, 42961), (42966, 2, 2,
  42967), (42997, 1, 1, 42998), (65313, 26, 1, 65345), (66560, 40, 1, 66600), (66736, 36, 1, 66776),
  (66928, 11, 1, 66967), (66940, 15, 1, 66979), (66956, 7, 1, 66995), (66964, 2, 1, 67003), (68736,
  51, 1, 68800), (71840, 32, 1, 71872), (93760, 32, 1, 93792), (125184, 34, 1, 125218)]

/-- Stretches `(first, count, step, image)` of code points whose upper case lies as far from `image` as they lie from
`first`. -/
def upperStretches : List (Nat × Nat × Nat × Nat) := [
  (181, 1, 1, 924), (223, 1, 1, 83), (224, 23, 1, 192), (248, 7, 1, 216), (255, 1, 1, 376), (257,
  24, 2, 256), (305, 1, 1, 73), (307, 3, 2, 306), (314, 8, 2, 313), (329, 1, 1, 700), (331, 23, 2,
  330), (378, 3, 2, 377), (383, 1, 1, 83), (384, 1, 1, 579), (387, 2, 2, 386), (392, 1, 1, 391),
  (396, 1, 1, 395), (402, 1, 1, 401), (405, 1, 1, 502), (409, 1, 1, 408), (410, 1, 1, 573), (414, 1,
  1, 544), (417, 3, 2, 416), (424, 1, 1, 423), (429, 1, 1, 428), (432, 1, 1, 431), (436, 2, 2, 435),
  (441, 1, 1, 440), (445, 1, 1, 444), (447, 1, 1, 503), (453, 1, 1, 452), (454, 1, 1, 452), (456, 1,
  1, 455), (457, 1, 1, 455), (459, 1, 1, 458), (460, 1, 1, 458), (462, 8, 2, 461), (477, 1, 1, 398),
  (479, 9, 2, 478), (496, 1, 1, 74), (498, 1, 1, 497), (499, 1, 1, 497), (501, 1, 1, 500), (505, 20,
  2, 504), (547, 9, 2, 546), (572, 1, 1, 571), (575, 2, 1, 11390), (578, 1, 1, 577), (583, 5, 2,
  582), (592, 1, 1, 11375), (593, 1, 1, 11373), (594, 1, 1, 11376), (595, 1, 1, 385), (596, 1, 1,
  390), (598, 2, 1, 393), (601, 1, 1, 399), (603, 1, 1, 400), (604, 1, 1, 42923), (608, 1, 1, 403),
  (609, 1, 1, 42924), (611, 1, 1, 404), (613, 1, 1, 42893), (614, 1, 1, 42922), (616, 1, 1, 407),
  (617, 1, 1, 406), (618, 1, 1, 42926), (619, 1, 1, 11362), (620, 1, 1, 42925), (623, 1, 1, 412),
  (625, 1, 1, 11374), (626, 1, 1, 413), (629, 1, 1, 415), (637, 1, 1, 11364), (640, 1, 1, 422),
  (642, 1, 1, 42949), (643, 1, 1, 425), (647, 1, 1, 42929), (648, 1, 1, 430), (649, 1, 1, 580),
  (650, 2, 1, 433), (652, 1, 1, 581), (658, 1, 1, 439), (669, 1, 1, 42930), (670, 1, 1, 42928),
  (837, 1, 1, 921), (881, 2, 2, 880), (887, 1, 1, 886), (891, 3, 1, 1021), (912, 1, 1, 921), (940,
  1, 1, 902), (941, 3, 1, 904), (944, 1, 1, 933), (945, 17, 1, 913), (962, 1, 1, 931), (963, 9, 1,
  931), (972, 1, 1, 908), (973, 2, 1, 910), (976, 1, 1, 914), (977, 1, 1, 920), (981, 1, 1, 934),
  (982, 1, 1, 928), (983, 1, 1, 975), (985, 12, 2, 984), (1008, 1, 1, 922), (1009, 1, 1, 929),
  (1010, 1, 1, 1017), (1011, 1, 1, 895), (1013, 1, 1, 917), (1016, 1, 1, 1015), (1019, 1, 1, 1018),
  (1072, 32, 1, 1040), (1104, 16, 1, 1024), (1121, 17, 2, 1120), (1163, 27, 2, 1162), (1218, 7, 2,
  1217), (1231, 1, 1, 1216), (1233, 48, 2, 1232), (1377, 38, 1, 1329), (1415, 1, 1, 1333), (4304,
  43, 1, 7312), (4349, 3, 1, 7357), (5112, 6, 1, 5104), (7296, 1, 1, 1042), (7297, 1, 1, 1044),
  (7298, 1, 1, 1054), (7299, 2, 1, 1057), (7301, 1, 1, 1058), (7302, 1, 1, 1066), (7303, 1, 1,
  1122), (7304, 1, 1, 42570), (7545, 1, 1, 42877), (7549, 1, 1, 11363), (7566, 1, 1, 42950), (7681,
  75, 2, 7680), (7830, 1, 1, 72), (7831, 1, 1, 84), (7832, 1, 1, 87), (7833, 1, 1, 89), (7834, 1, 1,
  65), (7835, 1, 1, 7776), (7841, 48, 2, 7840), (7936, 8, 1, 7944), (7952, 6, 1, 7960), (7968, 8, 1,
  7976), (7984, 8, 1, 7992), (8000, 6, 1, 8008), (8016, 1, 1, 933), (8017, 1, 1, 8025), (8018, 1, 1,
  933), (8019, 1, 1, 8027), (8020, 1, 1, 933), (8021, 1, 1, 8029), (8022, 1, 1, 933), (8023, 1, 1,
  8031), (8032, 8, 1, 8040), (8048, 2, 1, 8122), (8050, 4, 1, 8136), (8054, 2, 1, 8154), (8056, 2,
  1, 8184), (8058, 2, 1, 8170), (8060, 2, 1, 8186), (8064, 8, 1, 7944), (8072, 8, 1, 7944), (8080,
  8, 1, 7976), (8088, 8, 1, 7976), (8096, 8, 1, 8040), (8104, 8, 1, 8040), (8112, 3, 1, 8120),
  (8115, 1, 1, 913), (8116, 1, 1, 902), (8118, 1, 1, 913), (8119, 1, 1, 913), (8124, 1, 1, 913),
  (8126, 1, 1, 921), (8130, 1, 1, 8138), (8131, 1, 1, 919), (8132, 1, 1, 905), (8134, 1, 1, 919),
  (8135, 1, 1, 919), (8140, 1, 1, 919), (8144, 2, 1, 8152), (8146, 1, 1, 921), (8147, 1, 1, 921),
  (8150, 1, 1, 921), (8151, 1, 1, 921), (8160, 2, 1, 8168), (8162, 1, 1, 933), (8163, 1, 1, 933),
  (8164, 1, 1, 929), (8165, 1, 1, 8172), (8166, 1, 1, 933), (8167, 1, 1, 933), (8178, 1, 1, 8186),
  (8179, 1, 1, 937), (8180, 1, 1, 911), (8182, 1, 1, 937), (8183, 1, 1, 937), (8188, 1, 1, 937),
  (8526, 1, 1, 8498), (8560, 16, 1, 8544), (8580, 1, 1, 8579), (9424, 26, 1, 9398), (11312, 48, 1,
  11264), (11361, 1, 1, 11360), (11365, 1, 1, 570), (11366, 1, 1, 574), (11368, 3, 2, 11367),
  (11379, 1, 1, 11378), (11382, 1, 1, 11381), (11393, 50, 2, 11392), (11500, 2, 2, 11499), (11507,
  1, 1, 11506), (11520, 38, 1, 4256), (11559, 1, 1, 4295), (11565, 1, 1, 4301), (42561, 23, 2,
  42560), (42625, 14, 2, 42624), (42787, 7, 2, 42786), (42803, 31, 2, 42802), (42874, 2, 2, 42873),
  (42879, 5, 2, 42878), (42892, 1, 1, 42891), (42897, 2, 2, 42896), (42900, 1, 1, 42948), (42903,
  10, 2, 42902), (42933, 8, 2, 42932), (42952, 2, 2, 42951), (42961, 1, 1, 42960), (42967, 2, 2,
  42966), (42998, 1, 1, 42997), (43859, 1, 1, 42931), (43888, 80, 1, 5024), (64256, 1, 1, 70),
  (64257, 1, 1, 70), (64258, 1, 1, 70), (64259, 1, 1, 70), (64260, 1, 1, 70), (64261, 1, 1, 83),
  (64262, 1, 1, 83), (64275, 1, 1, 1348), (64276, 1, 1, 1348), (64277, 1, 1, 1348), (64278, 1, 1,
  1358), (64279, 1, 1, 1348), (65345, 26, 1, 65313), (66600, 40, 1, 66560), (66776, 36, 1, 66736),
  (66967, 11, 1, 66928), (66979, 15, 1, 66940), (66995, 7, 1, 66956), (67003, 2, 1, 66964), (68800,
  51, 1, 68736), (71872, 32, 1, 71840), (93792, 32, 1, 93760), (125218, 34, 1, 125184)]

/-- Run lengths of the characters that have another case, the first run being outside. -/
def casedRuns : List Nat := [
  65, 26, 6, 26, 58, 1, 10, 23, 1, 31, 1, 64, 1, 84, 1, 13, 1, 14, 2, 14, 2, 2, 1, 1, 4, 93, 1, 18,
  6, 27, 1, 2, 1, 1, 1, 2, 3, 2, 1, 1, 1, 2, 1, 5, 2, 1, 1, 2, 2, 1, 7, 1, 2, 1, 1, 2, 3, 6, 5, 1,
  10, 2, 166, 1, 42, 4, 2, 2, 3, 3, 1, 1, 6, 1, 1, 3, 1, 1, 1, 20, 1, 47, 3, 33, 1, 5, 1, 133, 8,
  166, 1, 38, 10, 39, 2840, 38, 1, 1, 5, 1, 2, 43, 2, 3, 672, 86, 2, 6, 2178, 9, 7, 43, 2, 3, 185,
  1, 3, 1, 16, 1, 113, 156, 2, 1, 1, 118, 2, 6, 2, 38, 2, 6, 2, 8, 1, 1, 1, 1, 1, 1, 1, 31, 2, 53,
  1, 7, 1, 1, 3, 3, 1, 7, 3, 4, 2, 6, 4, 13, 5, 3, 1, 7, 297, 1, 3, 2, 6, 1, 27, 1, 17, 32, 3, 2,
  817, 52, 1814, 113, 1, 2, 1, 2, 7, 102, 7, 4, 3, 2, 12, 38, 1, 1, 5, 1, 30994, 46, 18, 28, 134,
  14, 2, 62, 9, 15, 3, 3, 2, 5, 1, 25, 1, 27, 5, 2, 4, 4, 27, 2, 860, 1, 28, 80, 20288, 7, 12, 5,
  1033, 26, 6, 26, 1189, 80, 96, 36, 4, 36, 116, 11, 1, 15, 1, 7, 1, 2, 1, 11, 1, 15, 1, 7, 1, 2,
  1731, 51, 13, 51, 2989, 64, 21856, 64, 31360, 68]

/-- Lower case letters beside the other lower case letters of the same upper case letter. -/
def sameLetter : List (Nat × List Nat) := [
  (105, [305]), (115, [383]), (181, [956]), (305, [105]), (383, [115]), (837, [953, 8126]), (912,
  [8147]), (944, [8163]), (946, [976]), (949, [1013]), (952, [977]), (953, [837, 8126]), (954,
  [1008]), (956, [181]), (960, [982]), (961, [1009]), (962, [963]), (963, [962]), (966, [981]),
  (976, [946]), (977, [952]), (981, [966]), (982, [960]), (1008, [954]), (1009, [961]), (1013,
  [949]), (1074, [7296]), (1076, [7297]), (1086, [7298]), (1089, [7299]), (1090, [7300, 7301]),
  (1098, [7302]), (1123, [7303]), (7296, [1074]), (7297, [1076]), (7298, [1086]), (7299, [1089]),
  (7300, [1090, 7301]), (7301, [1090, 7300]), (7302, [1098]), (7303, [1123]), (7304, [42571]),
  (7777, [7835]), (7835, [7777]), (8126, [837, 953]), (8147, [912]), (8163, [944]), (42571,
  [7304]), (64261, [64262]), (64262, [64261])]

def inStretch (c : Nat) : Nat × Nat × Nat × Nat → Bool
  | (first, count, step, _) => first ≤ c && c < first + count * step && (c - first) % step == 0

/-- The code point that the stretches map a code point to; one outside of them stays as it is. -/
def imageIn (stretches : List (Nat × Nat × Nat × Nat)) (c : Nat) : Nat :=
  match stretches.find? (inStretch c) with
  | some (first, _, _, image) => image + (c - first)
  | none => c

def asciiLower (c : Nat) : Nat :=
  if 65 ≤ c ∧ c ≤ 90 then c + 32 else c

def isAsciiLetter (c : Nat) : Bool :=
  97 ≤ asciiLower c && asciiLower c ≤ 122

def lowerCase (c : Nat) : Nat :=
  if c < 128 then asciiLower c else imageIn lowerStretches c

def upperCase (c : Nat) : Nat :=
  if c < 128 then (if isAsciiLetter c ∧ 97 ≤ c then c - 32 else c) else imageIn upperStretches c

def isCased (c : Nat) : Bool :=
  inRuns casedRuns c

/-- The lower case letters that are one letter with a lower case letter when case is ignored, itself apart. -/
def sameLetters (c : Nat) : List Nat :=
  (sameLetter.lookup c).getD []

def withLowerCase (c : Nat) : List Nat :=
  let uppers := lowerStretches.filterMap fun (first, count, step, image) =>
    let n := first + (c - image)
    if image ≤ c ∧ inStretch n (first, count, step, image) then some n else none
  let ascii := if 97 ≤ c ∧ c ≤ 122 then [c - 32] else []
  (if lowerCase c = c then [c] else []) ++ ascii ++ uppers

end BuildTree.Text
