import HostAgent.Text.Table

/-!
# Direction and joining

Two properties that decide which labels of domain names are legible.

* `Direction` — the bidirectional class, as far as domain names distinguish it.
* `Joining` — how a letter of a cursive script connects to its neighbours.
-/

namespace HostAgent.Unicode

/-- The bidirectional class of a character. -/
inductive Direction where
  | left
  | right
  | arabicLetter
  | arabicNumber
  | europeanNumber
  | europeanSeparator
  | commonSeparator
  | europeanTerminator
  | otherNeutral
  | boundaryNeutral
  | nonspacing
  | other
  deriving DecidableEq, Repr

/-- The classes, of which an entry holds up to the next one. -/
def directions : Text.Table Nat :=
  .numbers
    [[[0, 9], [9, 11], [5, 9], [14, 11], [5, 8], [2, 7], [3, 8], [5, 5], [1, 6], [1, 5], [1, 6]],
     [[2, 4], [10, 6], [1, 8], [6, 0], [26, 8], [6, 0], [26, 8], [4, 9], [6, 11], [1, 9], [26, 6]],
     [[1, 8], [1, 7], [4, 8], [4, 0], [1, 8], [2, 9], [1, 8], [2, 7], [2, 4], [2, 8], [1, 0]],
     [[1, 8], [3, 4], [1, 0], [1, 8], [5, 0], [23, 8], [1, 0], [31, 8], [1, 0], [449, 8], [2, 0]],
     [[7, 8], [14, 0], [2, 8], [14, 0], [5, 8], [9, 0], [1, 8], [17, 10], [112, 0], [4, 8]],
     [[2, 0], [8, 8], [1, 0], [5, 8], [2, 0], [1, 8], [1, 0], [110, 8], [1, 0], [140, 10], [7, 0]],
     [[256, 8], [1, 0], [2, 8], [2, 7], [1, 1], [1, 10], [45, 1], [1, 10], [1, 1], [1, 10]],
     [[2, 1], [1, 10], [2, 1], [1, 10], [1, 1], [56, 3], [6, 8], [2, 2], [1, 7], [2, 2], [1, 6]],
     [[1, 2], [1, 8], [2, 10], [11, 2], [48, 10], [21, 3], [10, 7], [1, 3], [2, 2], [3, 10]],
     [[1, 2], [101, 10], [7, 3], [1, 8], [1, 10], [6, 2], [2, 10], [2, 8], [1, 10], [4, 2]],
     [[2, 4], [10, 2], [23, 10], [1, 2], [30, 10], [27, 2], [91, 10], [11, 2], [15, 1], [43, 10]],
     [[9, 1], [2, 8], [4, 1], [3, 10], [1, 1], [24, 10], [4, 1], [1, 10], [9, 1], [1, 10], [3, 1]],
     [[1, 10], [5, 1], [43, 10], [3, 1], [4, 2], [48, 3], [2, 2], [5, 10], [9, 2], [42, 10]],
     [[24, 3], [1, 10], [32, 0], [55, 10], [1, 0], [1, 10], [1, 0], [4, 10], [8, 0], [4, 10]],
     [[1, 0], [3, 10], [7, 0], [10, 10], [2, 0], [29, 10], [1, 0], [58, 10], [1, 0], [4, 10]],
     [[4, 0], [8, 10], [1, 0], [20, 10], [2, 0], [14, 7], [2, 0], [7, 7], [1, 0], [2, 10], [1, 0]],
     [[2, 10], [2, 0], [57, 10], [1, 0], [4, 10], [2, 0], [4, 10], [2, 0], [2, 10], [3, 0]],
     [[3, 10], [1, 0], [30, 10], [2, 0], [3, 10], [1, 0], [11, 10], [2, 0], [57, 10], [1, 0]],
     [[4, 10], [5, 0], [1, 10], [2, 0], [4, 10], [1, 0], [20, 10], [2, 0], [13, 7], [1, 0]],
     [[8, 10], [6, 0], [1, 10], [1, 0], [58, 10], [1, 0], [2, 10], [1, 0], [1, 10], [4, 0]],
     [[8, 10], [1, 0], [7, 10], [2, 0], [11, 10], [2, 0], [30, 10], [1, 0], [61, 10], [1, 0]],
     [[12, 10], [1, 0], [37, 8], [6, 7], [1, 8], [1, 0], [5, 10], [1, 0], [3, 10], [1, 0]],
     [[55, 10], [1, 0], [1, 10], [3, 0], [5, 10], [3, 0], [1, 10], [4, 0], [7, 10], [2, 0]],
     [[11, 10], [2, 0], [20, 8], [7, 0], [2, 10], [1, 0], [58, 10], [1, 0], [15, 10], [2, 0]],
     [[20, 10], [2, 0], [28, 10], [2, 0], [57, 10], [2, 0], [4, 10], [4, 0], [8, 10], [1, 0]],
     [[20, 10], [2, 0], [29, 10], [1, 0], [72, 10], [1, 0], [7, 10], [3, 0], [1, 10], [1, 0]],
     [[90, 10], [1, 0], [2, 10], [7, 0], [4, 7], [1, 0], [7, 10], [8, 0], [98, 10], [1, 0]],
     [[2, 10], [9, 0], [11, 10], [7, 0], [73, 10], [2, 0], [27, 10], [1, 0], [1, 10], [1, 0]],
     [[1, 10], [1, 8], [4, 0], [51, 10], [14, 0], [1, 10], [5, 0], [1, 10], [2, 0], [5, 10]],
     [[11, 0], [1, 10], [36, 0], [9, 10], [1, 0], [102, 10], [4, 0], [1, 10], [6, 0], [1, 10]],
     [[2, 0], [2, 10], [2, 0], [25, 10], [2, 0], [4, 10], [3, 0], [16, 10], [4, 0], [13, 10]],
     [[1, 0], [2, 10], [2, 0], [6, 10], [1, 0], [15, 10], [1, 0], [703, 10], [3, 0], [48, 8]],
     [[10, 0], [102, 8], [1, 0], [639, 11], [1, 0], [26, 8], [2, 0], [117, 10], [3, 0], [29, 10]],
     [[2, 0], [30, 10], [2, 0], [30, 10], [2, 0], [64, 10], [2, 0], [1, 10], [7, 0], [8, 10]],
     [[1, 0], [2, 10], [11, 0], [7, 7], [1, 0], [1, 10], [1, 0], [18, 8], [10, 0], [6, 8]],
     [[11, 10], [3, 9], [1, 10], [1, 0], [117, 10], [2, 0], [34, 10], [1, 0], [118, 10], [3, 0]],
     [[4, 10], [2, 0], [9, 10], [1, 0], [6, 10], [3, 0], [4, 8], [1, 0], [3, 8], [2, 0], [152, 8]],
     [[34, 0], [23, 10], [2, 0], [2, 10], [1, 0], [58, 10], [1, 0], [1, 10], [7, 0], [1, 10]],
     [[1, 0], [1, 10], [1, 0], [2, 10], [8, 0], [6, 10], [10, 0], [2, 10], [1, 0], [48, 10]],
     [[46, 0], [2, 10], [12, 0], [20, 10], [4, 0], [48, 10], [1, 0], [1, 10], [5, 0], [1, 10]],
     [[1, 0], [5, 10], [1, 0], [11, 8], [2, 0], [27, 10], [9, 0], [11, 8], [1, 10], [2, 0]],
     [[32, 10], [4, 0], [2, 10], [2, 0], [1, 10], [3, 0], [56, 10], [1, 0], [1, 10], [2, 0]],
     [[3, 10], [1, 0], [1, 10], [3, 0], [58, 10], [8, 0], [2, 10], [2, 0], [152, 10], [3, 0]],
     [[1, 10], [13, 0], [1, 10], [7, 0], [4, 10], [1, 0], [6, 10], [1, 0], [3, 10], [2, 0]],
     [[198, 10], [64, 0], [445, 8], [1, 0], [1, 8], [3, 0], [11, 8], [3, 0], [13, 8], [3, 0]],
     [[13, 8], [3, 0], [13, 8], [2, 0], [1, 11], [11, 9], [3, 0], [1, 1], [1, 8], [24, 11]],
     [[7, 6], [1, 7], [5, 8], [15, 6], [1, 8], [26, 11], [1, 9], [6, 11], [4, 9], [6, 4], [1, 0]],
     [[3, 4], [6, 5], [2, 8], [3, 0], [1, 4], [10, 5], [2, 8], [3, 0], [17, 7], [33, 8], [1, 7]],
     [[14, 10], [33, 0], [15, 8], [2, 0], [1, 8], [4, 0], [1, 8], [2, 0], [10, 8], [1, 0], [1, 8]],
     [[3, 0], [5, 8], [6, 0], [1, 8], [1, 0], [1, 8], [1, 0], [1, 8], [1, 0], [4, 7], [1, 0]],
     [[11, 8], [2, 0], [4, 8], [5, 0], [5, 8], [4, 0], [2, 8], [16, 0], [41, 8], [3, 0], [4, 8]],
     [[130, 5], [1, 7], [1, 8], [290, 0], [69, 8], [26, 0], [1, 8], [148, 0], [22, 8], [11, 0]],
     [[21, 8], [40, 4], [20, 0], [78, 8], [450, 0], [1, 8], [339, 0], [256, 8], [628, 0], [2, 8]],
     [[138, 0], [229, 8], [6, 0], [4, 10], [3, 0], [7, 8], [7, 0], [127, 10], [1, 0], [96, 10]],
     [[32, 8], [94, 0], [34, 8], [26, 0], [1, 8], [89, 0], [12, 8], [214, 0], [26, 8], [16, 11]],
     [[1, 8], [4, 0], [3, 8], [25, 0], [9, 10], [4, 0], [2, 8], [1, 0], [5, 8], [2, 0], [5, 8]],
     [[3, 0], [89, 10], [2, 8], [2, 0], [3, 8], [1, 0], [90, 8], [1, 0], [196, 8], [38, 0]],
     [[9, 8], [1, 0], [45, 8], [2, 0], [49, 8], [16, 0], [28, 8], [3, 0], [50, 8], [15, 0]],
     [[12, 8], [4, 0], [167, 8], [4, 0], [99, 8], [2, 0], [31, 8], [1, 0], [6592, 8], [64, 0]],
     [[22160, 8], [55, 0], [326, 8], [3, 0], [95, 10], [4, 8], [1, 10], [10, 8], [2, 0], [30, 10]],
     [[2, 0], [80, 10], [2, 0], [14, 8], [34, 0], [102, 8], [1, 0], [121, 10], [1, 0], [3, 10]],
     [[1, 0], [4, 10], [1, 0], [25, 10], [2, 0], [1, 8], [4, 10], [1, 0], [11, 7], [2, 0]],
     [[58, 8], [4, 0], [76, 10], [2, 0], [26, 10], [18, 0], [13, 10], [1, 0], [38, 10], [8, 0]],
     [[25, 10], [11, 0], [46, 10], [3, 0], [48, 10], [1, 0], [2, 10], [4, 0], [2, 10], [2, 0]],
     [[39, 10], [1, 0], [67, 10], [6, 0], [2, 10], [2, 0], [2, 10], [2, 0], [12, 10], [1, 0]],
     [[8, 10], [1, 0], [47, 10], [1, 0], [51, 10], [1, 0], [1, 10], [3, 0], [2, 10], [2, 0]],
     [[5, 10], [2, 0], [1, 10], [1, 0], [42, 10], [2, 0], [8, 10], [1, 0], [115, 8], [2, 0]],
     [[121, 10], [1, 0], [2, 10], [1, 0], [4, 10], [1, 0], [20271, 1], [1, 10], [1, 1], [10, 5]],
     [[1, 1], [38, 2], [494, 8], [18, 2], [127, 8], [1, 9], [32, 2], [13, 8], [3, 10], [16, 8]],
     [[10, 0], [6, 10], [16, 8], [32, 6], [1, 8], [1, 6], [1, 0], [1, 8], [1, 6], [1, 8], [9, 7]],
     [[1, 8], [2, 5], [2, 8], [3, 0], [1, 8], [1, 7], [2, 8], [1, 0], [4, 2], [143, 9], [1, 0]],
     [[1, 8], [2, 7], [3, 8], [5, 5], [1, 6], [1, 5], [1, 6], [2, 4], [10, 6], [1, 8], [6, 0]],
     [[26, 8], [6, 0], [26, 8], [11, 0], [122, 7], [2, 8], [3, 7], [2, 0], [1, 8], [7, 0], [1, 9]],
     [[9, 8], [5, 9], [2, 0], [257, 8], [1, 0], [62, 8], [77, 0], [3, 8], [13, 0], [3, 8], [1, 0]],
     [[92, 10], [1, 0], [226, 10], [1, 4], [27, 0], [122, 10], [5, 0], [1157, 1], [287, 8]],
     [[1, 1], [225, 10], [3, 1], [1, 10], [2, 1], [5, 10], [4, 1], [40, 10], [3, 1], [4, 10]],
     [[1, 1], [165, 10], [2, 1], [82, 8], [7, 1], [448, 2], [36, 10], [4, 2], [8, 3], [10, 2]],
     [[6, 1], [41, 10], [5, 1], [242, 3], [31, 1], [44, 10], [2, 1], [19, 2], [58, 10], [6, 1]],
     [[48, 2], [22, 10], [11, 2], [31, 1], [18, 10], [4, 1], [122, 0], [1, 10], [1, 0], [54, 10]],
     [[15, 0], [11, 8], [20, 0], [10, 10], [1, 0], [2, 10], [2, 0], [10, 10], [3, 0], [49, 10]],
     [[4, 0], [2, 10], [2, 0], [7, 10], [1, 0], [61, 10], [3, 0], [36, 10], [5, 0], [1, 10]],
     [[8, 0], [62, 10], [1, 0], [12, 10], [2, 0], [52, 10], [9, 0], [10, 10], [4, 0], [2, 10]],
     [[1, 0], [95, 10], [3, 0], [2, 10], [1, 0], [1, 10], [2, 0], [6, 10], [1, 0], [2, 10]],
     [[1, 0], [157, 10], [1, 0], [3, 10], [8, 0], [21, 10], [2, 0], [57, 10], [2, 0], [3, 10]],
     [[1, 0], [37, 10], [7, 0], [3, 10], [5, 0], [70, 10], [6, 0], [13, 10], [1, 0], [1, 10]],
     [[1, 0], [1, 10], [1, 0], [1, 8], [2, 0], [1, 8], [2, 0], [8, 10], [2, 0], [85, 10], [8, 0]],
     [[2, 10], [3, 0], [1, 10], [1, 0], [23, 10], [1, 0], [84, 10], [6, 0], [1, 10], [1, 0]],
     [[4, 10], [2, 0], [1, 10], [2, 0], [238, 10], [4, 0], [6, 10], [2, 0], [1, 10], [2, 0]],
     [[27, 10], [2, 0], [85, 10], [8, 0], [2, 10], [1, 0], [1, 10], [2, 0], [31, 8], [13, 0]],
     [[62, 10], [1, 0], [1, 10], [1, 0], [2, 10], [6, 0], [1, 10], [1, 0], [101, 10], [3, 0]],
     [[2, 10], [4, 0], [1, 10], [5, 0], [259, 10], [9, 0], [1, 10], [2, 0], [256, 10], [2, 0]],
     [[1, 10], [1, 0], [4, 10], [1, 0], [144, 10], [4, 0], [2, 10], [2, 0], [4, 10], [1, 0]],
     [[32, 10], [6, 0], [2, 10], [2, 0], [40, 10], [6, 0], [2, 10], [4, 0], [8, 10], [1, 0]],
     [[9, 10], [6, 0], [2, 10], [3, 0], [46, 10], [13, 0], [1, 10], [2, 0], [198, 10], [1, 0]],
     [[1, 10], [3, 0], [1, 10], [1, 0], [122, 8], [1, 0], [78, 10], [7, 0], [1, 10], [6, 0]],
     [[84, 10], [22, 0], [2, 10], [7, 0], [1, 10], [2, 0], [1, 10], [2, 0], [122, 10], [6, 0]],
     [[3, 10], [1, 0], [1, 10], [2, 0], [1, 10], [7, 0], [1, 10], [1, 0], [72, 10], [2, 0]],
     [[3, 10], [1, 0], [1, 10], [1, 0], [347, 10], [2, 0], [11, 10], [2, 0], [52, 10], [5, 0]],
     [[5, 10], [1, 0], [1, 10], [1, 0], [23, 10], [1, 0], [122, 8], [8, 7], [4, 8], [17, 0]],
     [[5198, 10], [1, 0], [6, 10], [15, 0], [11464, 10], [12, 0], [3, 10], [3, 0], [2496, 10]],
     [[5, 0], [59, 10], [7, 0], [566, 8], [3, 0], [479, 10], [1, 0], [63, 10], [4, 0], [79, 8]],
     [[1, 0], [1, 10], [1, 0], [19640, 10], [2, 0], [1, 9], [4, 0], [3932, 8], [240, 0], [10, 8]],
     [[3, 0], [3, 8], [436, 0], [6, 8], [23, 0], [15, 8], [17, 0], [15, 10], [46, 0], [2, 10]],
     [[23, 0], [544, 10], [3, 0], [9, 9], [8, 10], [8, 0], [2, 10], [7, 0], [30, 10], [4, 0]],
     [[59, 8], [2, 0], [21, 8], [66, 10], [3, 8], [1, 0], [186, 8], [87, 0], [900, 8], [1, 0]],
     [[57, 8], [1, 0], [57, 8], [1, 0], [57, 8], [1, 0], [57, 8], [1, 0], [10, 4], [50, 0]],
     [[512, 10], [55, 0], [4, 10], [50, 0], [8, 10], [1, 0], [14, 10], [1, 0], [22, 10], [5, 0]],
     [[1, 10], [15, 0], [1360, 10], [7, 0], [1, 10], [17, 0], [2, 10], [7, 0], [1, 10], [2, 0]],
     [[1, 10], [5, 0], [100, 10], [1, 0], [160, 10], [7, 0], [375, 10], [1, 0], [61, 10], [4, 0]],
     [[15, 7], [1, 0], [492, 10], [4, 0], [254, 10], [2, 0], [15, 8], [1, 0], [227, 10], [1, 0]],
     [[2, 10], [1, 0], [7, 10], [2, 0], [5, 10], [1, 0], [266, 1], [208, 10], [7, 1], [109, 10]],
     [[7, 1], [805, 2], [80, 1], [64, 2], [80, 1], [176, 2], [240, 8], [2, 2], [14, 1], [256, 8]],
     [[44, 0], [4, 8], [100, 0], [12, 8], [15, 0], [2, 8], [15, 0], [1, 8], [15, 0], [1, 8]],
     [[37, 0], [10, 4], [11, 8], [5, 0], [31, 8], [1, 0], [58, 8], [6, 0], [61, 8], [1, 0]],
     [[178, 8], [6, 0], [154, 8], [985, 0], [3, 8], [17, 0], [3, 8], [13, 0], [3, 8], [218, 0]],
     [[6, 8], [12, 0], [4, 8], [1, 0], [15, 8], [12, 0], [4, 8], [56, 0], [8, 8], [10, 0], [6, 8]],
     [[40, 0], [8, 8], [30, 0], [2, 8], [12, 0], [4, 8], [2, 0], [14, 8], [9, 0], [39, 8]],
     [[344, 0], [8, 8], [14, 0], [2, 8], [13, 0], [3, 8], [11, 0], [3, 8], [57, 0], [1, 8]],
     [[1, 0], [4, 8], [16, 0], [2, 8], [12, 0], [4, 8], [10, 0], [7, 8], [147, 0], [1, 8]],
     [[92, 4], [10, 8], [1, 0], [1027, 9], [2, 0], [65534, 9], [2, 0], [65534, 9], [2, 0]],
     [[65534, 9], [2, 0], [65534, 9], [2, 0], [65534, 9], [2, 0], [65534, 9], [2, 0], [65534, 9]],
     [[2, 0], [65534, 9], [2, 0], [65534, 9], [2, 0], [65534, 9], [2, 0], [65534, 9], [2, 0]],
     [[65534, 9], [258, 10], [240, 9], [3600, 0], [61438, 9], [2, 0], [65534, 9], [2, 0]],
     [[65534, 9]]]

/-- The bidirectional class of a character. -/
def direction (c : Char) : Direction :=
  match (directions.below? c.toNat).getD 0 with
  | 0 => .left
  | 1 => .right
  | 2 => .arabicLetter
  | 3 => .arabicNumber
  | 4 => .europeanNumber
  | 5 => .europeanSeparator
  | 6 => .commonSeparator
  | 7 => .europeanTerminator
  | 8 => .otherNeutral
  | 9 => .boundaryNeutral
  | 10 => .nonspacing
  | _ => .other

/-- How a character connects to its neighbours. -/
inductive Joining where
  | none
  | left
  | right
  | both
  | transparent
  deriving DecidableEq, Repr

/-- The kinds, of which an entry holds up to the next one. -/
def joinings : Text.Table Nat :=
  .numbers
    [[[0, 0], [173, 4], [1, 0], [594, 4], [112, 0], [275, 4], [7, 0], [263, 4], [45, 0], [1, 4]],
     [[1, 0], [1, 4], [2, 0], [1, 4], [2, 0], [1, 4], [1, 0], [72, 4], [11, 0], [1, 4], [1, 0]],
     [[3, 3], [1, 0], [1, 2], [4, 3], [1, 2], [1, 3], [1, 2], [1, 3], [5, 2], [4, 3], [13, 0]],
     [[1, 3], [7, 2], [1, 3], [2, 4], [21, 0], [14, 3], [2, 4], [1, 2], [3, 0], [1, 2], [3, 3]],
     [[16, 2], [18, 3], [38, 2], [1, 3], [2, 2], [9, 3], [1, 2], [1, 3], [1, 2], [1, 3], [2, 2]],
     [[2, 0], [1, 2], [1, 4], [7, 0], [2, 4], [6, 0], [2, 4], [2, 0], [1, 4], [4, 2], [2, 0]],
     [[10, 3], [3, 0], [2, 3], [1, 0], [15, 4], [1, 2], [1, 4], [1, 3], [3, 2], [5, 3], [4, 2]],
     [[1, 3], [9, 2], [1, 3], [1, 2], [1, 3], [1, 2], [1, 3], [2, 2], [1, 4], [27, 0], [2, 2]],
     [[1, 3], [11, 2], [3, 3], [15, 2], [2, 3], [4, 2], [1, 3], [1, 2], [2, 3], [3, 2], [2, 3]],
     [[6, 0], [38, 4], [11, 0], [25, 3], [33, 4], [9, 0], [9, 4], [1, 0], [24, 4], [4, 0], [1, 4]],
     [[9, 0], [1, 4], [3, 0], [1, 4], [5, 0], [18, 2], [1, 3], [5, 2], [2, 3], [1, 2], [1, 3]],
     [[10, 2], [1, 3], [1, 2], [3, 4], [3, 0], [4, 3], [1, 0], [1, 3], [4, 0], [1, 2], [1, 3]],
     [[1, 2], [2, 0], [5, 2], [19, 0], [3, 3], [1, 0], [2, 3], [5, 2], [1, 3], [1, 0], [7, 4]],
     [[9, 3], [10, 2], [3, 0], [1, 2], [1, 3], [2, 2], [2, 3], [6, 2], [1, 3], [15, 0], [1, 4]],
     [[24, 0], [1, 4], [32, 0], [55, 4], [1, 0], [1, 4], [1, 0], [4, 4], [8, 0], [4, 4], [1, 0]],
     [[3, 4], [7, 0], [10, 4], [2, 0], [29, 4], [1, 0], [58, 4], [1, 0], [4, 4], [4, 0], [8, 4]],
     [[1, 0], [20, 4], [2, 0], [26, 4], [1, 0], [2, 4], [2, 0], [57, 4], [1, 0], [4, 4], [2, 0]],
     [[4, 4], [2, 0], [2, 4], [3, 0], [3, 4], [1, 0], [30, 4], [2, 0], [3, 4], [1, 0], [11, 4]],
     [[2, 0], [57, 4], [1, 0], [4, 4], [5, 0], [1, 4], [2, 0], [4, 4], [1, 0], [20, 4], [2, 0]],
     [[22, 4], [6, 0], [1, 4], [1, 0], [58, 4], [1, 0], [2, 4], [1, 0], [1, 4], [4, 0], [8, 4]],
     [[1, 0], [7, 4], [2, 0], [11, 4], [2, 0], [30, 4], [1, 0], [61, 4], [1, 0], [12, 4], [1, 0]],
     [[50, 4], [1, 0], [3, 4], [1, 0], [55, 4], [1, 0], [1, 4], [3, 0], [5, 4], [3, 0], [1, 4]],
     [[4, 0], [7, 4], [2, 0], [11, 4], [2, 0], [29, 4], [1, 0], [58, 4], [1, 0], [2, 4], [1, 0]],
     [[6, 4], [1, 0], [5, 4], [2, 0], [20, 4], [2, 0], [28, 4], [2, 0], [57, 4], [2, 0], [4, 4]],
     [[4, 0], [8, 4], [1, 0], [20, 4], [2, 0], [29, 4], [1, 0], [72, 4], [1, 0], [7, 4], [3, 0]],
     [[1, 4], [1, 0], [90, 4], [1, 0], [2, 4], [7, 0], [12, 4], [8, 0], [98, 4], [1, 0], [2, 4]],
     [[9, 0], [11, 4], [7, 0], [73, 4], [2, 0], [27, 4], [1, 0], [1, 4], [1, 0], [1, 4], [1, 0]],
     [[55, 4], [14, 0], [1, 4], [5, 0], [1, 4], [2, 0], [5, 4], [11, 0], [1, 4], [36, 0], [9, 4]],
     [[1, 0], [102, 4], [4, 0], [1, 4], [6, 0], [1, 4], [2, 0], [2, 4], [2, 0], [25, 4], [2, 0]],
     [[4, 4], [3, 0], [16, 4], [4, 0], [13, 4], [1, 0], [2, 4], [2, 0], [6, 4], [1, 0], [15, 4]],
     [[1, 0], [703, 4], [3, 0], [946, 4], [3, 0], [29, 4], [2, 0], [30, 4], [2, 0], [30, 4]],
     [[2, 0], [64, 4], [2, 0], [1, 4], [7, 0], [8, 4], [1, 0], [2, 4], [11, 0], [9, 4], [1, 0]],
     [[41, 3], [1, 0], [3, 4], [3, 0], [1, 4], [1, 0], [16, 3], [89, 0], [12, 4], [2, 3], [34, 4]],
     [[1, 3], [1, 0], [117, 4], [3, 0], [4, 4], [2, 0], [9, 4], [1, 0], [6, 4], [3, 0], [219, 4]],
     [[2, 0], [2, 4], [1, 0], [58, 4], [1, 0], [1, 4], [7, 0], [1, 4], [1, 0], [1, 4], [1, 0]],
     [[2, 4], [8, 0], [6, 4], [10, 0], [2, 4], [1, 0], [48, 4], [46, 0], [2, 4], [12, 0], [20, 4]],
     [[4, 0], [48, 4], [1, 0], [1, 4], [5, 0], [1, 4], [1, 0], [5, 4], [1, 0], [40, 4], [9, 0]],
     [[12, 4], [2, 0], [32, 4], [4, 0], [2, 4], [2, 0], [1, 4], [3, 0], [56, 4], [1, 0], [1, 4]],
     [[2, 0], [3, 4], [1, 0], [1, 4], [3, 0], [58, 4], [8, 0], [2, 4], [2, 0], [152, 4], [3, 0]],
     [[1, 4], [13, 0], [1, 4], [7, 0], [4, 4], [1, 0], [6, 4], [1, 0], [3, 4], [2, 0], [198, 4]],
     [[64, 0], [523, 4], [1, 0], [2, 4], [2, 0], [26, 4], [5, 0], [49, 4], [5, 0], [5, 4], [6, 0]],
     [[96, 4], [33, 0], [3070, 4], [3, 0], [141, 4], [1, 0], [96, 4], [32, 0], [554, 4], [4, 0]],
     [[107, 4], [2, 0], [30164, 4], [4, 0], [1, 4], [10, 0], [32, 4], [2, 0], [80, 4], [2, 0]],
     [[272, 4], [1, 0], [3, 4], [1, 0], [4, 4], [1, 0], [25, 4], [2, 0], [5, 4], [1, 0], [19, 3]],
     [[50, 1], [1, 0], [81, 4], [2, 0], [26, 4], [18, 0], [13, 4], [1, 0], [38, 4], [8, 0]],
     [[25, 4], [11, 0], [46, 4], [3, 0], [48, 4], [1, 0], [2, 4], [4, 0], [2, 4], [2, 0], [39, 4]],
     [[1, 0], [67, 4], [6, 0], [2, 4], [2, 0], [2, 4], [2, 0], [12, 4], [1, 0], [8, 4], [1, 0]],
     [[47, 4], [1, 0], [51, 4], [1, 0], [1, 4], [3, 0], [2, 4], [2, 0], [5, 4], [2, 0], [1, 4]],
     [[1, 0], [42, 4], [2, 0], [8, 4], [1, 0], [238, 4], [1, 0], [2, 4], [1, 0], [4, 4], [1, 0]],
     [[20272, 4], [1, 0], [737, 4], [16, 0], [16, 4], [16, 0], [207, 4], [1, 0], [249, 4], [3, 0]],
     [[513, 4], [1, 0], [226, 4], [1, 0], [149, 4], [5, 0], [1670, 4], [3, 0], [1, 4], [2, 0]],
     [[5, 4], [4, 0], [40, 4], [3, 0], [4, 4], [1, 0], [128, 3], [5, 2], [1, 0], [1, 2], [1, 0]],
     [[1, 2], [2, 0], [2, 1], [1, 2], [5, 3], [4, 1], [1, 3], [5, 2], [1, 3], [3, 2], [1, 0]],
     [[2, 2], [1, 4], [2, 0], [4, 3], [4, 2], [1, 0], [144, 3], [1, 2], [1, 3], [1, 2], [3, 3]],
     [[3, 2], [1, 3], [2, 2], [1, 3], [1, 2], [2, 3], [1, 2], [1, 0], [23, 2], [4, 3], [2, 0]],
     [[337, 1], [1, 3], [33, 2], [1, 3], [1, 4], [4, 0], [65, 4], [5, 0], [317, 4], [2, 0]],
     [[21, 2], [1, 3], [2, 0], [1, 3], [2, 0], [50, 4], [6, 0], [48, 3], [3, 2], [1, 3], [17, 0]],
     [[1, 4], [11, 3], [3, 2], [1, 0], [27, 3], [4, 2], [2, 3], [12, 4], [4, 0], [42, 3], [1, 0]],
     [[1, 3], [2, 2], [3, 0], [1, 3], [1, 2], [2, 3], [2, 2], [1, 3], [2, 0], [1, 3], [1, 2]],
     [[2, 3], [1, 0], [4, 2], [1, 3], [1, 1], [1, 0], [53, 4], [1, 0], [54, 4], [15, 0], [41, 4]],
     [[1, 0], [2, 4], [2, 0], [10, 4], [3, 0], [49, 4], [4, 0], [2, 4], [2, 0], [7, 4], [1, 0]],
     [[61, 4], [3, 0], [36, 4], [5, 0], [1, 4], [8, 0], [62, 4], [1, 0], [12, 4], [2, 0], [52, 4]],
     [[9, 0], [10, 4], [4, 0], [2, 4], [1, 0], [95, 4], [3, 0], [2, 4], [1, 0], [1, 4], [2, 0]],
     [[6, 4], [1, 0], [2, 4], [1, 0], [157, 4], [1, 0], [3, 4], [8, 0], [21, 4], [2, 0], [57, 4]],
     [[2, 0], [3, 4], [1, 0], [37, 4], [7, 0], [3, 4], [5, 0], [70, 4], [6, 0], [13, 4], [1, 0]],
     [[1, 4], [1, 0], [1, 4], [1, 0], [14, 4], [2, 0], [85, 4], [8, 0], [2, 4], [3, 0], [1, 4]],
     [[1, 0], [23, 4], [1, 0], [84, 4], [6, 0], [1, 4], [1, 0], [4, 4], [2, 0], [1, 4], [2, 0]],
     [[238, 4], [4, 0], [6, 4], [2, 0], [1, 4], [2, 0], [27, 4], [2, 0], [85, 4], [8, 0], [2, 4]],
     [[1, 0], [1, 4], [2, 0], [106, 4], [1, 0], [1, 4], [1, 0], [2, 4], [6, 0], [1, 4], [1, 0]],
     [[101, 4], [1, 0], [1, 4], [1, 0], [2, 4], [4, 0], [1, 4], [5, 0], [259, 4], [9, 0], [1, 4]],
     [[2, 0], [256, 4], [2, 0], [1, 4], [1, 0], [4, 4], [1, 0], [144, 4], [4, 0], [2, 4], [2, 0]],
     [[4, 4], [1, 0], [32, 4], [10, 0], [40, 4], [6, 0], [2, 4], [4, 0], [8, 4], [1, 0], [9, 4]],
     [[6, 0], [2, 4], [3, 0], [46, 4], [13, 0], [1, 4], [2, 0], [198, 4], [1, 0], [1, 4], [3, 0]],
     [[1, 4], [1, 0], [201, 4], [7, 0], [1, 4], [6, 0], [1, 4], [1, 0], [82, 4], [22, 0], [2, 4]],
     [[7, 0], [1, 4], [2, 0], [1, 4], [2, 0], [122, 4], [6, 0], [3, 4], [1, 0], [1, 4], [2, 0]],
     [[1, 4], [7, 0], [1, 4], [1, 0], [72, 4], [2, 0], [3, 4], [1, 0], [1, 4], [1, 0], [347, 4]],
     [[2, 0], [11, 4], [2, 0], [52, 4], [5, 0], [5, 4], [1, 0], [1, 4], [1, 0], [23, 4], [1, 0]],
     [[5333, 4], [17, 0], [6, 4], [15, 0], [11464, 4], [12, 0], [3, 4], [3, 0], [2496, 4], [5, 0]],
     [[59, 4], [7, 0], [1048, 4], [1, 0], [63, 4], [4, 0], [81, 4], [1, 0], [19640, 4], [2, 0]],
     [[1, 4], [4, 0], [4700, 4], [46, 0], [2, 4], [23, 0], [544, 4], [3, 0], [9, 4], [16, 0]],
     [[2, 4], [7, 0], [30, 4], [4, 0], [148, 4], [3, 0], [1979, 4], [55, 0], [4, 4], [50, 0]],
     [[8, 4], [1, 0], [14, 4], [1, 0], [22, 4], [5, 0], [1, 4], [15, 0], [1360, 4], [7, 0]],
     [[1, 4], [17, 0], [2, 4], [7, 0], [1, 4], [2, 0], [1, 4], [5, 0], [100, 4], [1, 0], [160, 4]],
     [[7, 0], [375, 4], [1, 0], [61, 4], [4, 0], [508, 4], [4, 0], [254, 4], [2, 0], [243, 4]],
     [[1, 0], [2, 4], [1, 0], [7, 4], [2, 0], [5, 4], [1, 0], [474, 4], [7, 0], [41, 3], [68, 4]],
     [[8, 0], [792245, 4], [1, 0], [30, 4], [96, 0], [128, 4], [240, 0]]]

/-- How a character connects to its neighbours. -/
def joining (c : Char) : Joining :=
  match (joinings.below? c.toNat).getD 0 with
  | 1 => .left
  | 2 => .right
  | 3 => .both
  | 4 => .transparent
  | _ => .none

end HostAgent.Unicode
