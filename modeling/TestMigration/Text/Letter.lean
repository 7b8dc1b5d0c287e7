/-!
# Letters and their case

Names in the sources may use any script, so the tests "is a letter" and "is upper case" and the two
case mappings are those of all scripts. A form in the other case may be longer than the letter. The
small form of a sigma at the end of a word is the one for that place.
-/

namespace TestMigration.Text

/-! ### Sets of code points

A set of code points is given by the widths of its gaps and runs: how many code points come before
it, how many lie in it then, how many after them do not, and so on. -/

/-- Whether a number lies in the set with the given widths. -/
def within : List Nat → Nat → Bool
  | gap :: run :: rest, n => gap ≤ n && (n < gap + run || within rest (n - (gap + run)))
  | [gap], n => gap ≤ n
  | [], _ => false

def letterWidths : List Nat :=
  [65,26,6,26,47,1,10,1,4,1,5,23,1,31,1,458,4,12,14,5,7,1,1,1,129,5,1,2,2,4,1,1,6,1,1,3,1,1,1,20,1,
   83,1,139,8,166,1,38,2,1,6,41,71,27,4,4,45,43,35,2,1,99,1,1,15,2,7,2,10,3,2,1,16,1,1,30,29,89,11,
   1,24,33,9,2,4,1,5,22,4,1,9,1,3,1,23,25,7,11,5,24,1,6,17,42,58,54,3,1,18,1,7,10,15,16,4,8,2,2,2,
   22,1,7,1,1,3,4,3,1,16,1,13,2,1,3,14,2,10,1,8,6,4,2,2,22,1,7,1,2,1,2,1,2,31,4,1,1,19,3,16,9,1,3,
   1,22,1,7,1,2,1,5,3,1,18,1,15,2,23,1,11,8,2,2,2,22,1,7,1,2,1,5,3,1,30,2,1,3,15,1,17,1,1,6,3,3,1,
   4,3,2,1,1,1,2,3,2,3,3,3,12,22,1,52,8,1,3,1,23,1,16,3,1,26,3,2,1,2,2,30,1,4,8,1,3,1,23,1,10,1,5,
   3,1,31,2,1,2,15,2,17,9,1,3,1,41,2,1,16,1,5,3,8,3,24,6,5,18,3,24,1,9,1,1,2,7,58,48,1,2,12,7,58,2,
   1,1,1,5,1,24,1,1,1,10,1,2,9,1,2,5,1,1,21,4,32,1,63,8,1,36,27,5,115,43,20,1,16,6,4,4,3,1,3,2,7,3,
   4,13,12,1,17,38,1,1,5,1,2,43,1,333,1,4,2,7,1,1,1,4,2,41,1,4,2,33,1,4,2,7,1,1,1,4,2,15,1,57,1,4,
   2,67,37,16,16,86,2,6,3,620,2,17,1,26,5,75,6,8,7,18,13,19,14,18,14,13,1,3,15,52,35,1,4,1,67,89,7,
   5,2,34,1,1,5,70,10,31,49,30,2,5,11,44,4,26,54,23,9,53,82,1,93,47,17,8,54,30,13,2,10,44,26,36,41,
   3,10,36,2,9,7,43,2,3,41,4,1,6,1,2,3,1,5,192,64,278,2,6,2,38,2,6,2,8,1,1,1,1,1,1,1,31,2,53,1,7,1,
   1,3,3,1,7,3,4,2,6,4,13,5,3,1,7,116,1,13,1,16,13,101,1,4,1,2,10,1,1,3,5,6,1,1,1,1,1,1,4,1,11,2,4,
   5,5,4,1,52,2,2683,229,6,4,3,2,12,38,1,1,5,1,2,56,7,1,16,23,9,7,1,7,1,7,1,7,1,7,1,7,1,7,1,7,80,1,
   469,2,42,5,5,2,4,86,6,3,1,90,1,4,5,43,1,94,17,32,48,16,512,6592,64,22157,67,46,2,269,3,16,10,2,
   20,47,16,31,2,70,49,9,2,103,2,64,5,2,1,1,1,5,24,16,1,3,1,4,1,23,29,52,14,50,62,6,3,1,1,2,11,28,
   10,23,25,29,7,47,28,1,16,5,1,10,10,5,1,41,23,3,1,8,20,23,3,1,3,50,1,1,3,2,2,5,2,1,1,1,24,3,2,11,
   7,3,12,6,2,6,2,6,9,7,1,7,1,43,1,14,6,115,29,11172,12,23,4,49,8452,366,2,106,38,7,12,5,5,1,1,10,
   1,13,1,5,1,1,1,2,1,2,1,108,33,363,18,64,2,54,40,12,116,5,1,135,36,26,6,26,11,89,3,6,2,6,2,6,2,3,
   35,12,1,26,1,19,1,2,1,15,2,14,34,123,389,29,3,49,47,32,13,20,1,8,6,38,10,30,2,36,4,8,48,158,18,
   36,4,36,4,40,8,52,12,11,1,15,1,7,1,2,1,11,1,15,1,7,1,2,67,311,9,22,10,8,24,6,1,42,1,9,69,6,2,1,
   1,44,1,2,3,1,2,23,10,23,9,31,65,19,1,2,10,22,10,26,70,56,6,2,64,1,15,4,1,3,1,29,42,29,3,29,35,8,
   1,28,27,54,10,22,10,19,13,18,110,73,55,51,13,51,13,36,348,42,6,2,78,29,10,1,8,22,42,18,46,21,27,
   23,12,53,57,2,2,1,13,45,32,25,26,36,29,1,2,1,8,35,3,1,12,48,14,4,21,1,1,1,35,18,1,25,84,7,1,1,1,
   4,1,15,1,10,7,47,38,8,2,2,2,22,1,7,1,2,1,5,3,1,18,1,12,5,158,53,18,4,20,3,30,48,20,2,1,1,184,47,
   41,4,36,48,20,1,59,43,13,1,71,27,37,7,185,44,116,64,31,8,2,1,2,8,1,2,1,24,15,1,1,1,94,8,2,39,16,
   1,1,1,28,1,10,40,7,1,21,1,11,46,19,1,18,73,263,9,1,37,17,1,49,30,112,7,1,2,1,38,21,1,25,6,1,2,1,
   32,14,1,327,19,189,1,79,922,230,196,2636,97,15,1071,4049,583,8633,569,7,31,17,79,17,30,18,48,16,
   4,31,21,5,19,688,64,128,75,5,1,66,13,64,2,1,1,28,6136,8,1238,42,9,8935,4,1,7,1,2,1,291,45,3,17,
   4,8,396,2308,107,5,13,3,9,7,10,5990,85,1,71,1,2,2,1,2,2,2,4,1,12,1,1,1,7,1,65,1,4,2,8,1,7,1,28,
   1,4,1,5,1,1,3,7,1,340,2,25,1,25,1,31,1,25,1,31,1,25,1,31,1,25,1,31,1,25,1,8,1844,31,481,45,10,7,
   16,1,321,30,18,44,1268,7,1,4,1,2,1,15,1,197,59,68,7,1,1204,4,1,27,1,2,1,1,2,1,1,10,1,4,1,1,1,1,
   6,1,4,1,1,1,1,1,1,3,1,2,1,1,2,1,1,1,1,1,1,1,1,1,1,2,1,1,2,4,1,7,1,4,1,4,1,1,1,10,1,17,5,3,1,5,1,
   17,4420,42720,32,4153,7,222,2,5762,14,7473,3103,542,1506,4939]

/-- The code points that stand for numbers. -/
def numeralWidths : List Nat :=
  [48,10,120,2,5,1,2,3,1441,10,134,10,198,10,412,10,118,10,4,6,108,10,118,10,118,10,2,6,110,13,115,
   10,8,7,103,10,104,7,7,19,109,10,96,10,118,10,70,20,268,10,70,10,719,20,881,3,239,10,6,10,22,10,
   300,10,128,11,165,10,6,10,182,10,86,10,134,10,6,10,1046,1,3,6,6,10,198,51,2,5,726,60,78,22,630,
   30,1385,1,777,1,25,9,14,3,343,4,138,10,30,8,1,15,32,10,39,15,29536,10,188,10,320,6,154,10,38,10,
   198,10,22,10,86,10,406,10,21270,10,493,45,12,57,17,2,341,27,36,4,29,1,8,1,134,5,202,10,942,8,25,
   7,39,9,75,5,22,6,160,2,2,16,2,46,64,9,52,2,30,3,75,5,104,8,24,8,41,7,330,6,48,10,294,31,158,10,
   42,4,112,7,134,30,128,10,60,10,144,10,7,20,251,10,342,10,118,10,374,10,102,10,102,12,420,19,93,
   10,758,29,227,10,70,10,534,21,1067,111,17905,10,86,10,134,10,1,7,798,23,25673,20,108,25,1109,50,
   2368,10,422,10,1485,9,128,10,791,59,1,3,1,4,76,45,1,15,962,13,2787,10]

def isLetter (c : Char) : Bool := within letterWidths c.toNat

/-- Whether a character can be part of a word: a letter, a numeral or an underscore. -/
def isWordChar (c : Char) : Bool :=
  c == '_' || c.isAlphanum || isLetter c || within numeralWidths c.toNat

/-! ### Case

The letters with a capital or a small form other than themselves come in runs, in which the other
form lies at a fixed distance. -/

/-- Letters at equal steps whose other form lies at the same distance. -/
structure CaseRun where
  first : Nat
  last : Nat
  step : Nat
  distance : Int
  deriving DecidableEq, Repr

abbrev CaseRun.one (letter : Nat) (distance : Int) : CaseRun := ⟨letter, letter, 1, distance⟩

def capitalRuns : List CaseRun :=
  [⟨97, 122, 1, -32⟩, .one 181 743, ⟨224, 246, 1, -32⟩, ⟨248, 254, 1, -32⟩, .one 255 121,
   ⟨257, 303, 2, -1⟩, .one 305 (-232), ⟨307, 311, 2, -1⟩, ⟨314, 328, 2, -1⟩, ⟨331, 375, 2, -1⟩,
   ⟨378, 382, 2, -1⟩, .one 383 (-300), .one 384 195, ⟨387, 389, 2, -1⟩, .one 392 (-1),
   .one 396 (-1), .one 402 (-1), .one 405 97, .one 409 (-1), .one 410 163, .one 414 130,
   ⟨417, 421, 2, -1⟩, .one 424 (-1), .one 429 (-1), .one 432 (-1), ⟨436, 438, 2, -1⟩,
   .one 441 (-1), .one 445 (-1), .one 447 56, .one 453 (-1), .one 454 (-2), .one 456 (-1),
   .one 457 (-2), .one 459 (-1), .one 460 (-2), ⟨462, 476, 2, -1⟩, .one 477 (-79),
   ⟨479, 495, 2, -1⟩, .one 498 (-1), .one 499 (-2), .one 501 (-1), ⟨505, 543, 2, -1⟩,
   ⟨547, 563, 2, -1⟩, .one 572 (-1), ⟨575, 576, 1, 10815⟩, .one 578 (-1), ⟨583, 591, 2, -1⟩,
   .one 592 10783, .one 593 10780, .one 594 10782, .one 595 (-210), .one 596 (-206),
   ⟨598, 599, 1, -205⟩, .one 601 (-202), .one 603 (-203), .one 604 42319, .one 608 (-205),
   .one 609 42315, .one 611 (-207), .one 613 42280, .one 614 42308, .one 616 (-209),
   .one 617 (-211), .one 618 42308, .one 619 10743, .one 620 42305, .one 623 (-211),
   .one 625 10749, .one 626 (-213), .one 629 (-214), .one 637 10727, .one 640 (-218),
   .one 642 42307, .one 643 (-218), .one 647 42282, .one 648 (-218), .one 649 (-69),
   ⟨650, 651, 1, -217⟩, .one 652 (-71), .one 658 (-219), .one 669 42261, .one 670 42258,
   .one 837 84, ⟨881, 883, 2, -1⟩, .one 887 (-1), ⟨891, 893, 1, 130⟩, .one 940 (-38),
   ⟨941, 943, 1, -37⟩, ⟨945, 961, 1, -32⟩, .one 962 (-31), ⟨963, 971, 1, -32⟩, .one 972 (-64),
   ⟨973, 974, 1, -63⟩, .one 976 (-62), .one 977 (-57), .one 981 (-47), .one 982 (-54),
   .one 983 (-8), ⟨985, 1007, 2, -1⟩, .one 1008 (-86), .one 1009 (-80), .one 1010 7,
   .one 1011 (-116), .one 1013 (-96), .one 1016 (-1), .one 1019 (-1), ⟨1072, 1103, 1, -32⟩,
   ⟨1104, 1119, 1, -80⟩, ⟨1121, 1153, 2, -1⟩, ⟨1163, 1215, 2, -1⟩, ⟨1218, 1230, 2, -1⟩,
   .one 1231 (-15), ⟨1233, 1327, 2, -1⟩, ⟨1377, 1414, 1, -48⟩, ⟨4304, 4346, 1, 3008⟩,
   ⟨4349, 4351, 1, 3008⟩, ⟨5112, 5117, 1, -8⟩, .one 7296 (-6254), .one 7297 (-6253),
   .one 7298 (-6244), ⟨7299, 7300, 1, -6242⟩, .one 7301 (-6243), .one 7302 (-6236),
   .one 7303 (-6181), .one 7304 35266, .one 7545 35332, .one 7549 3814, .one 7566 35384,
   ⟨7681, 7829, 2, -1⟩, .one 7835 (-59), ⟨7841, 7935, 2, -1⟩, ⟨7936, 7943, 1, 8⟩,
   ⟨7952, 7957, 1, 8⟩, ⟨7968, 7975, 1, 8⟩, ⟨7984, 7991, 1, 8⟩, ⟨8000, 8005, 1, 8⟩,
   ⟨8017, 8023, 2, 8⟩, ⟨8032, 8039, 1, 8⟩, ⟨8048, 8049, 1, 74⟩, ⟨8050, 8053, 1, 86⟩,
   ⟨8054, 8055, 1, 100⟩, ⟨8056, 8057, 1, 128⟩, ⟨8058, 8059, 1, 112⟩, ⟨8060, 8061, 1, 126⟩,
   ⟨8112, 8113, 1, 8⟩, .one 8126 (-7205), ⟨8144, 8145, 1, 8⟩, ⟨8160, 8161, 1, 8⟩, .one 8165 7,
   .one 8526 (-28), ⟨8560, 8575, 1, -16⟩, .one 8580 (-1), ⟨9424, 9449, 1, -26⟩,
   ⟨11312, 11359, 1, -48⟩, .one 11361 (-1), .one 11365 (-10795), .one 11366 (-10792),
   ⟨11368, 11372, 2, -1⟩, .one 11379 (-1), .one 11382 (-1), ⟨11393, 11491, 2, -1⟩,
   ⟨11500, 11502, 2, -1⟩, .one 11507 (-1), ⟨11520, 11557, 1, -7264⟩, .one 11559 (-7264),
   .one 11565 (-7264), ⟨42561, 42605, 2, -1⟩, ⟨42625, 42651, 2, -1⟩, ⟨42787, 42799, 2, -1⟩,
   ⟨42803, 42863, 2, -1⟩, ⟨42874, 42876, 2, -1⟩, ⟨42879, 42887, 2, -1⟩, .one 42892 (-1),
   ⟨42897, 42899, 2, -1⟩, .one 42900 48, ⟨42903, 42921, 2, -1⟩, ⟨42933, 42947, 2, -1⟩,
   ⟨42952, 42954, 2, -1⟩, .one 42961 (-1), ⟨42967, 42969, 2, -1⟩, .one 42998 (-1),
   .one 43859 (-928), ⟨43888, 43967, 1, -38864⟩, ⟨65345, 65370, 1, -32⟩, ⟨66600, 66639, 1, -40⟩,
   ⟨66776, 66811, 1, -40⟩, ⟨66967, 67003, 2, -39⟩, ⟨66968, 66976, 2, -39⟩, ⟨66980, 66992, 2, -39⟩,
   ⟨66996, 67000, 2, -39⟩, .one 67004 (-39), ⟨68800, 68850, 1, -64⟩, ⟨71872, 71903, 1, -32⟩,
   ⟨93792, 93823, 1, -32⟩, ⟨125218, 125251, 1, -34⟩]

/-- Letters whose small form is not the first one that they are the capital form of. -/
def smallRuns : List CaseRun :=
  [.one 452 2, .one 453 1, .one 455 2, .one 456 1, .one 458 2, .one 459 1, .one 497 2, .one 498 1,
   .one 921 32, .one 924 32, .one 931 32, .one 1012 (-60), .one 7838 (-7615), ⟨8072, 8079, 1, -8⟩,
   ⟨8088, 8095, 1, -8⟩, ⟨8104, 8111, 1, -8⟩, .one 8124 (-9), .one 8140 (-9), .one 8188 (-9),
   .one 8486 (-7517), .one 8490 (-8383), .one 8491 (-8262), .one 42570 1]

/-- Letters whose capital form has more than one character. That of a vowel with a subscript iota
ends in a capital iota. -/
def longCapitals : List (Nat × List Nat) :=
  (List.range 48).map (fun k => (8064 + k, [[7944, 7976, 8040].getD (k / 16) 0 + k % 8, 921])) ++
  [(223, [83, 83]), (329, [700, 78]), (496, [74, 780]), (912, [921, 776, 769]),
   (944, [933, 776, 769]), (1415, [1333, 1362]), (7830, [72, 817]), (7831, [84, 776]),
   (7832, [87, 778]), (7833, [89, 778]), (7834, [65, 702]), (8016, [933, 787]),
   (8018, [933, 787, 768]), (8020, [933, 787, 769]), (8022, [933, 787, 834]), (8114, [8122, 921]),
   (8115, [913, 921]), (8116, [902, 921]), (8118, [913, 834]), (8119, [913, 834, 921]),
   (8124, [913, 921]), (8130, [8138, 921]), (8131, [919, 921]), (8132, [905, 921]),
   (8134, [919, 834]), (8135, [919, 834, 921]), (8140, [919, 921]), (8146, [921, 776, 768]),
   (8147, [921, 776, 769]), (8150, [921, 834]), (8151, [921, 776, 834]), (8162, [933, 776, 768]),
   (8163, [933, 776, 769]), (8164, [929, 787]), (8166, [933, 834]), (8167, [933, 776, 834]),
   (8178, [8186, 921]), (8179, [937, 921]), (8180, [911, 921]), (8182, [937, 834]),
   (8183, [937, 834, 921]), (8188, [937, 921]), (64256, [70, 70]), (64257, [70, 73]),
   (64258, [70, 76]), (64259, [70, 70, 73]), (64260, [70, 70, 76]), (64261, [83, 84]),
   (64262, [83, 84]), (64275, [1348, 1350]), (64276, [1348, 1333]), (64277, [1348, 1339]),
   (64278, [1358, 1350]), (64279, [1348, 1341])]

/-- Capitals that only start a word: a capital and a small letter in one. -/
def titleWidths : List Nat :=
  [453,1,2,1,2,1,38,1,7573,8,8,8,8,8,12,1,15,1,47,1]

/-- Capitals without a small form. -/
def lastingWidths : List Nat :=
  [978,3,7469,1,4,1,3,3,2,3,2,1,3,5,6,1,3,1,3,2,2,2,1,1,10,2,5,1,111290,26,26,26,26,26,26,1,1,2,2,
   1,2,2,2,4,1,8,26,26,26,2,1,4,2,8,1,7,27,2,1,4,1,5,1,1,3,7,27,26,26,26,26,26,26,26,26,26,26,26,
   30,25,33,25,33,25,33,25,33,25,33,1,6501,26,6,26,6,26]

/-- Whether a run contains a letter. -/
def CaseRun.has (r : CaseRun) (n : Nat) : Bool :=
  r.first ≤ n && n ≤ r.last && (n - r.first) % r.step == 0

def otherCase? (runs : List CaseRun) (n : Nat) : Option Nat :=
  (runs.find? (·.has n)).map fun r => (Int.ofNat n + r.distance).toNat

def formerCase? (runs : List CaseRun) (n : Nat) : Option Nat :=
  runs.findSome? fun r =>
    let former := (Int.ofNat n - r.distance).toNat
    if r.has former then some former else none

/-- The code points of the capital form. -/
def upperPoints (n : Nat) : List Nat :=
  match otherCase? capitalRuns n with
  | some m => [m]
  | none => (Prod.snd <$> longCapitals.find? (·.1 == n)).getD [n]

/-- The code points of the small form. The one capital with a dot of its own keeps it. -/
def lowerPoints (n : Nat) : List Nat :=
  if n == 0x130 then [0x69, 0x307]
  else [((otherCase? smallRuns n).or (formerCase? capitalRuns n)).getD n]

def upperChar (c : Char) : List Char := (upperPoints c.toNat).map Char.ofNat

def lowerChar (c : Char) : List Char := (lowerPoints c.toNat).map Char.ofNat

def upper (s : String) : String := .ofList (s.toList.flatMap upperChar)

/-! ### The neighbours of a sigma

The small form of a capital sigma depends on whether it ends a word. Characters with a case belong
to the word, and some, such as accents, are looked through. -/

/-- Characters with a case that are not looked through. -/
def casedWidths : List Nat :=
  [65,26,6,26,47,1,10,1,4,1,5,23,1,31,1,195,1,4,4,208,1,27,192,4,2,2,3,3,1,1,6,1,1,3,1,1,1,20,1,83,
   1,139,8,166,1,38,9,41,2839,38,1,1,5,1,2,43,2,3,672,86,2,6,2178,9,7,43,2,3,64,44,63,13,1,34,101,
   278,2,6,2,38,2,6,2,8,1,1,1,1,1,1,1,31,2,53,1,7,1,1,3,3,1,7,3,4,2,6,4,13,5,3,1,7,261,1,4,1,2,10,
   1,1,3,5,6,1,1,1,1,1,1,4,1,6,4,1,2,4,5,5,4,1,17,32,3,2,817,52,1814,124,2,103,6,4,3,2,12,38,1,1,5,
   1,30994,46,18,28,134,78,1,23,3,4,1,59,5,2,1,1,1,5,27,2,3,1,821,43,5,9,7,80,20288,7,12,5,1033,26,
   6,26,1189,80,96,36,4,36,116,11,1,15,1,7,1,2,1,11,1,15,1,7,1,2,1731,51,13,51,2989,64,21856,64,
   25984,85,1,71,1,2,2,1,2,2,2,4,1,12,1,1,1,7,1,65,1,4,2,8,1,7,1,28,1,4,1,5,1,1,3,7,1,340,2,25,1,
   25,1,31,1,25,1,31,1,25,1,31,1,25,1,31,1,25,1,8,1844,10,1,20,2529,68,2028,26,6,26,6,26]

/-- Characters that are looked through. -/
def transparentWidths : List Nat :=
  [39,1,6,1,11,1,35,1,1,1,71,1,4,1,1,1,4,1,2,2,503,192,4,2,4,1,9,2,1,1,251,7,207,1,5,1,49,45,1,1,1,
   2,1,2,1,1,44,1,11,6,10,11,1,1,35,1,10,21,16,1,101,8,1,10,1,4,33,1,1,1,30,27,91,11,58,11,4,1,2,1,
   24,24,43,3,44,1,7,2,6,8,41,58,55,1,1,1,4,8,4,1,3,7,10,2,13,1,15,1,58,1,4,4,8,1,20,2,26,1,2,2,57,
   1,4,2,4,2,2,3,3,1,30,2,3,1,11,2,57,1,4,5,1,2,4,1,20,2,22,6,1,1,58,1,2,1,1,4,8,1,7,2,11,2,30,1,
   61,1,12,1,50,1,3,1,55,1,1,3,5,3,1,4,7,2,11,2,29,1,58,1,2,1,6,1,5,2,20,2,28,2,57,2,4,4,8,1,20,2,
   29,1,72,1,7,3,1,1,90,1,2,7,11,9,98,1,2,9,9,1,1,6,74,2,27,1,1,1,1,1,55,14,1,5,1,2,5,11,1,36,9,1,
   102,4,1,6,1,2,2,2,25,2,4,3,16,4,13,1,2,2,6,1,15,1,94,1,608,3,946,3,29,2,30,2,30,2,64,2,1,7,8,1,
   2,11,3,1,5,1,45,5,51,1,65,2,34,1,118,3,4,2,9,1,6,3,219,2,2,1,58,1,1,7,1,1,1,1,2,8,6,10,2,1,39,1,
   8,31,49,4,48,1,1,5,1,1,5,1,40,9,12,2,32,4,2,2,1,3,56,1,1,2,3,1,1,3,58,8,2,2,64,6,82,3,1,13,1,7,
   4,1,6,1,3,2,50,63,13,1,34,101,445,1,1,3,11,3,13,3,13,3,13,2,12,5,8,2,10,1,2,1,2,5,49,5,1,10,1,1,
   13,1,16,13,51,33,2955,2,113,3,125,1,15,1,96,32,47,1,469,1,36,4,3,5,5,1,93,6,93,3,28438,1,1250,6,
   270,1,98,4,1,10,1,1,28,4,80,2,14,34,78,1,23,3,103,3,3,2,8,1,3,1,4,1,25,2,5,1,151,2,26,18,13,1,
   38,8,25,11,46,3,48,1,2,4,2,2,17,1,21,2,66,6,2,2,2,2,12,1,8,1,35,1,11,1,51,1,1,3,2,2,5,2,1,1,27,
   1,14,2,5,2,1,1,100,5,9,3,121,1,2,1,4,1,20272,1,147,17,573,16,3,1,12,16,34,1,2,1,169,1,7,1,6,1,
   11,1,35,1,1,1,47,1,45,2,67,1,21,3,513,1,226,1,149,5,1029,6,1,42,1,9,582,3,1,2,5,4,40,3,4,1,165,
   2,573,4,387,2,153,11,49,4,123,1,54,15,41,1,2,2,10,3,49,4,2,2,2,1,4,1,10,1,50,3,36,5,1,8,62,1,12,
   2,52,9,10,4,2,1,95,3,2,1,1,2,6,1,160,1,3,8,21,2,57,2,3,1,37,7,3,5,195,8,2,3,1,1,23,1,84,6,1,1,4,
   2,1,2,238,4,6,2,1,2,27,2,85,8,2,1,1,2,106,1,1,1,2,6,1,1,101,3,2,4,1,5,259,9,1,2,256,2,1,1,4,1,
   144,4,2,2,4,1,32,10,40,6,2,4,8,1,9,6,2,3,46,13,1,2,406,7,1,6,1,1,82,22,2,7,1,2,1,2,122,6,3,1,1,
   2,1,7,1,1,72,2,3,1,1,1,347,2,5435,9,14007,5,59,7,9,4,1035,1,63,17,64,2,1,2,16395,4,1,7,1,2,3230,
   2,1,4,4700,46,2,23,544,3,9,16,2,7,30,4,148,3,1979,55,4,50,8,1,14,1,22,5,1,15,1360,7,1,17,2,7,1,
   2,1,5,261,14,368,1,61,4,1504,7,109,8,2735,5,789505,1,30,96,128,240]

def meetsCased (cs : List Char) : Bool :=
  (cs.dropWhile fun c => within transparentWidths c.toNat).head?.any fun c =>
    within casedWidths c.toNat

/-- A text in small letters; `before` is what stands in front of it, held backwards. -/
def lowerFrom (before : List Char) : List Char → List Char
  | [] => []
  | c :: rest =>
    (if c == 'Σ' && meetsCased before && !meetsCased rest then ['ς'] else lowerChar c)
      ++ lowerFrom (c :: before) rest

def lower (s : String) : String := .ofList (lowerFrom [] s.toList)

def isUpper (c : Char) : Bool :=
  (lowerPoints c.toNat != [c.toNat] && !within titleWidths c.toNat)
    || within lastingWidths c.toNat

end TestMigration.Text
