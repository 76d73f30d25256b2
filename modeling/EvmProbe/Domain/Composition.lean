import EvmProbe.Domain.Marks

/-!
Composed texts.

Some characters can be written as a base character and a character that combines with it.  A text is
composed if its marks are in order and no two characters of it can be written as one.
-/

namespace EvmProbe.Domain

/-- The pairs of a base character and a second character that can be written as one. -/
def composablePairs : List (Nat × Nat) :=
  [
   (0x3c, 0x338), (0x3d, 0x338), (0x3e, 0x338), (0x61, 0x300), (0x61, 0x301), (0x61, 0x302),
   (0x61, 0x303), (0x61, 0x304), (0x61, 0x306), (0x61, 0x307), (0x61, 0x308), (0x61, 0x309),
   (0x61, 0x30a), (0x61, 0x30c), (0x61, 0x30f), (0x61, 0x311), (0x61, 0x323), (0x61, 0x325),
   (0x61, 0x328), (0x62, 0x307), (0x62, 0x323), (0x62, 0x331), (0x63, 0x301), (0x63, 0x302),
   (0x63, 0x307), (0x63, 0x30c), (0x63, 0x327), (0x64, 0x307), (0x64, 0x30c), (0x64, 0x323),
   (0x64, 0x327), (0x64, 0x32d), (0x64, 0x331), (0x65, 0x300), (0x65, 0x301), (0x65, 0x302),
   (0x65, 0x303), (0x65, 0x304), (0x65, 0x306), (0x65, 0x307), (0x65, 0x308), (0x65, 0x309),
   (0x65, 0x30c), (0x65, 0x30f), (0x65, 0x311), (0x65, 0x323), (0x65, 0x327), (0x65, 0x328),
   (0x65, 0x32d), (0x65, 0x330), (0x66, 0x307), (0x67, 0x301), (0x67, 0x302), (0x67, 0x304),
   (0x67, 0x306), (0x67, 0x307), (0x67, 0x30c), (0x67, 0x327), (0x68, 0x302), (0x68, 0x307),
   (0x68, 0x308), (0x68, 0x30c), (0x68, 0x323), (0x68, 0x327), (0x68, 0x32e), (0x68, 0x331),
   (0x69, 0x300), (0x69, 0x301), (0x69, 0x302), (0x69, 0x303), (0x69, 0x304), (0x69, 0x306),
   (0x69, 0x308), (0x69, 0x309), (0x69, 0x30c), (0x69, 0x30f), (0x69, 0x311), (0x69, 0x323),
   (0x69, 0x328), (0x69, 0x330), (0x6a, 0x302), (0x6a, 0x30c), (0x6b, 0x301), (0x6b, 0x30c),
   (0x6b, 0x323), (0x6b, 0x327), (0x6b, 0x331), (0x6c, 0x301), (0x6c, 0x30c), (0x6c, 0x323),
   (0x6c, 0x327), (0x6c, 0x32d), (0x6c, 0x331), (0x6d, 0x301), (0x6d, 0x307), (0x6d, 0x323),
   (0x6e, 0x300), (0x6e, 0x301), (0x6e, 0x303), (0x6e, 0x307), (0x6e, 0x30c), (0x6e, 0x323),
   (0x6e, 0x327), (0x6e, 0x32d), (0x6e, 0x331), (0x6f, 0x300), (0x6f, 0x301), (0x6f, 0x302),
   (0x6f, 0x303), (0x6f, 0x304), (0x6f, 0x306), (0x6f, 0x307), (0x6f, 0x308), (0x6f, 0x309),
   (0x6f, 0x30b), (0x6f, 0x30c), (0x6f, 0x30f), (0x6f, 0x311), (0x6f, 0x31b), (0x6f, 0x323),
   (0x6f, 0x328), (0x70, 0x301), (0x70, 0x307), (0x72, 0x301), (0x72, 0x307), (0x72, 0x30c),
   (0x72, 0x30f), (0x72, 0x311), (0x72, 0x323), (0x72, 0x327), (0x72, 0x331), (0x73, 0x301),
   (0x73, 0x302), (0x73, 0x307), (0x73, 0x30c), (0x73, 0x323), (0x73, 0x326), (0x73, 0x327),
   (0x74, 0x307), (0x74, 0x308), (0x74, 0x30c), (0x74, 0x323), (0x74, 0x326), (0x74, 0x327),
   (0x74, 0x32d), (0x74, 0x331), (0x75, 0x300), (0x75, 0x301), (0x75, 0x302), (0x75, 0x303),
   (0x75, 0x304), (0x75, 0x306), (0x75, 0x308), (0x75, 0x309), (0x75, 0x30a), (0x75, 0x30b),
   (0x75, 0x30c), (0x75, 0x30f), (0x75, 0x311), (0x75, 0x31b), (0x75, 0x323), (0x75, 0x324),
   (0x75, 0x328), (0x75, 0x32d), (0x75, 0x330), (0x76, 0x303), (0x76, 0x323), (0x77, 0x300),
   (0x77, 0x301), (0x77, 0x302), (0x77, 0x307), (0x77, 0x308), (0x77, 0x30a), (0x77, 0x323),
   (0x78, 0x307), (0x78, 0x308), (0x79, 0x300), (0x79, 0x301), (0x79, 0x302), (0x79, 0x303),
   (0x79, 0x304), (0x79, 0x307), (0x79, 0x308), (0x79, 0x309), (0x79, 0x30a), (0x79, 0x323),
   (0x7a, 0x301), (0x7a, 0x302), (0x7a, 0x307), (0x7a, 0x30c), (0x7a, 0x323), (0x7a, 0x331),
   (0xe2, 0x300), (0xe2, 0x301), (0xe2, 0x303), (0xe2, 0x309), (0xe4, 0x304), (0xe5, 0x301),
   (0xe6, 0x301), (0xe6, 0x304), (0xe7, 0x301), (0xea, 0x300), (0xea, 0x301), (0xea, 0x303),
   (0xea, 0x309), (0xef, 0x301), (0xf4, 0x300), (0xf4, 0x301), (0xf4, 0x303), (0xf4, 0x309),
   (0xf5, 0x301), (0xf5, 0x304), (0xf5, 0x308), (0xf6, 0x304), (0xf8, 0x301), (0xfc, 0x300),
   (0xfc, 0x301), (0xfc, 0x304), (0xfc, 0x30c), (0x103, 0x300), (0x103, 0x301), (0x103, 0x303),
   (0x103, 0x309), (0x113, 0x300), (0x113, 0x301), (0x14d, 0x300), (0x14d, 0x301), (0x15b, 0x307),
   (0x161, 0x307), (0x169, 0x301), (0x16b, 0x308), (0x1a1, 0x300), (0x1a1, 0x301), (0x1a1, 0x303),
   (0x1a1, 0x309), (0x1a1, 0x323), (0x1b0, 0x300), (0x1b0, 0x301), (0x1b0, 0x303), (0x1b0, 0x309),
   (0x1b0, 0x323), (0x1eb, 0x304), (0x227, 0x304), (0x229, 0x306), (0x22f, 0x304), (0x292, 0x30c),
   (0x3b1, 0x300), (0x3b1, 0x301), (0x3b1, 0x304), (0x3b1, 0x306), (0x3b1, 0x313), (0x3b1, 0x314),
   (0x3b1, 0x342), (0x3b5, 0x300), (0x3b5, 0x301), (0x3b5, 0x313), (0x3b5, 0x314), (0x3b7, 0x300),
   (0x3b7, 0x301), (0x3b7, 0x313), (0x3b7, 0x314), (0x3b7, 0x342), (0x3b9, 0x300), (0x3b9, 0x301),
   (0x3b9, 0x304), (0x3b9, 0x306), (0x3b9, 0x308), (0x3b9, 0x313), (0x3b9, 0x314), (0x3b9, 0x342),
   (0x3bf, 0x300), (0x3bf, 0x301), (0x3bf, 0x313), (0x3bf, 0x314), (0x3c1, 0x313), (0x3c1, 0x314),
   (0x3c5, 0x300), (0x3c5, 0x301), (0x3c5, 0x304), (0x3c5, 0x306), (0x3c5, 0x308), (0x3c5, 0x313),
   (0x3c5, 0x314), (0x3c5, 0x342), (0x3c9, 0x300), (0x3c9, 0x301), (0x3c9, 0x313), (0x3c9, 0x314),
   (0x3c9, 0x342), (0x3ca, 0x300), (0x3ca, 0x301), (0x3ca, 0x342), (0x3cb, 0x300), (0x3cb, 0x301),
   (0x3cb, 0x342), (0x430, 0x306), (0x430, 0x308), (0x433, 0x301), (0x435, 0x300), (0x435, 0x306),
   (0x435, 0x308), (0x436, 0x306), (0x436, 0x308), (0x437, 0x308), (0x438, 0x300), (0x438, 0x304),
   (0x438, 0x306), (0x438, 0x308), (0x43a, 0x301), (0x43e, 0x308), (0x443, 0x304), (0x443, 0x306),
   (0x443, 0x308), (0x443, 0x30b), (0x447, 0x308), (0x44b, 0x308), (0x44d, 0x308), (0x456, 0x308),
   (0x475, 0x30f), (0x4d9, 0x308), (0x4e9, 0x308), (0x627, 0x653), (0x627, 0x654), (0x627, 0x655),
   (0x648, 0x654), (0x64a, 0x654), (0x6c1, 0x654), (0x6d2, 0x654), (0x6d5, 0x654), (0x928, 0x93c),
   (0x930, 0x93c), (0x933, 0x93c), (0x9c7, 0x9be), (0x9c7, 0x9d7), (0xb47, 0xb3e), (0xb47, 0xb56),
   (0xb47, 0xb57), (0xb92, 0xbd7), (0xbc6, 0xbbe), (0xbc6, 0xbd7), (0xbc7, 0xbbe), (0xc46, 0xc56),
   (0xcbf, 0xcd5), (0xcc6, 0xcc2), (0xcc6, 0xcd5), (0xcc6, 0xcd6), (0xcca, 0xcd5), (0xd46, 0xd3e),
   (0xd46, 0xd57), (0xd47, 0xd3e), (0xdd9, 0xdca), (0xdd9, 0xdcf), (0xdd9, 0xddf), (0xddc, 0xdca),
   (0x1025, 0x102e), (0x1b05, 0x1b35), (0x1b07, 0x1b35), (0x1b09, 0x1b35), (0x1b0b, 0x1b35),
   (0x1b0d, 0x1b35), (0x1b11, 0x1b35), (0x1b3a, 0x1b35), (0x1b3c, 0x1b35), (0x1b3e, 0x1b35),
   (0x1b3f, 0x1b35), (0x1b42, 0x1b35), (0x1e37, 0x304), (0x1e5b, 0x304), (0x1e63, 0x307),
   (0x1ea1, 0x302), (0x1ea1, 0x306), (0x1eb9, 0x302), (0x1ecd, 0x302), (0x1f00, 0x300),
   (0x1f00, 0x301), (0x1f00, 0x342), (0x1f01, 0x300), (0x1f01, 0x301), (0x1f01, 0x342),
   (0x1f10, 0x300), (0x1f10, 0x301), (0x1f11, 0x300), (0x1f11, 0x301), (0x1f20, 0x300),
   (0x1f20, 0x301), (0x1f20, 0x342), (0x1f21, 0x300), (0x1f21, 0x301), (0x1f21, 0x342),
   (0x1f30, 0x300), (0x1f30, 0x301), (0x1f30, 0x342), (0x1f31, 0x300), (0x1f31, 0x301),
   (0x1f31, 0x342), (0x1f40, 0x300), (0x1f40, 0x301), (0x1f41, 0x300), (0x1f41, 0x301),
   (0x1f50, 0x300), (0x1f50, 0x301), (0x1f50, 0x342), (0x1f51, 0x300), (0x1f51, 0x301),
   (0x1f51, 0x342), (0x1f60, 0x300), (0x1f60, 0x301), (0x1f60, 0x342), (0x1f61, 0x300),
   (0x1f61, 0x301), (0x1f61, 0x342), (0x2190, 0x338), (0x2192, 0x338), (0x2194, 0x338),
   (0x21d0, 0x338), (0x21d2, 0x338), (0x21d4, 0x338), (0x2203, 0x338), (0x2208, 0x338),
   (0x220b, 0x338), (0x2223, 0x338), (0x2225, 0x338), (0x223c, 0x338), (0x2243, 0x338),
   (0x2245, 0x338), (0x2248, 0x338), (0x224d, 0x338), (0x2261, 0x338), (0x2264, 0x338),
   (0x2265, 0x338), (0x2272, 0x338), (0x2273, 0x338), (0x2276, 0x338), (0x2277, 0x338),
   (0x227a, 0x338), (0x227b, 0x338), (0x227c, 0x338), (0x227d, 0x338), (0x2282, 0x338),
   (0x2283, 0x338), (0x2286, 0x338), (0x2287, 0x338), (0x2291, 0x338), (0x2292, 0x338),
   (0x22a2, 0x338), (0x22a8, 0x338), (0x22a9, 0x338), (0x22ab, 0x338), (0x22b2, 0x338),
   (0x22b3, 0x338), (0x22b4, 0x338), (0x22b5, 0x338), (0x3046, 0x3099), (0x304b, 0x3099),
   (0x304d, 0x3099), (0x304f, 0x3099), (0x3051, 0x3099), (0x3053, 0x3099), (0x3055, 0x3099),
   (0x3057, 0x3099), (0x3059, 0x3099), (0x305b, 0x3099), (0x305d, 0x3099), (0x305f, 0x3099),
   (0x3061, 0x3099), (0x3064, 0x3099), (0x3066, 0x3099), (0x3068, 0x3099), (0x306f, 0x3099),
   (0x306f, 0x309a), (0x3072, 0x3099), (0x3072, 0x309a), (0x3075, 0x3099), (0x3075, 0x309a),
   (0x3078, 0x3099), (0x3078, 0x309a), (0x307b, 0x3099), (0x307b, 0x309a), (0x309d, 0x3099),
   (0x30a6, 0x3099), (0x30ab, 0x3099), (0x30ad, 0x3099), (0x30af, 0x3099), (0x30b1, 0x3099),
   (0x30b3, 0x3099), (0x30b5, 0x3099), (0x30b7, 0x3099), (0x30b9, 0x3099), (0x30bb, 0x3099),
   (0x30bd, 0x3099), (0x30bf, 0x3099), (0x30c1, 0x3099), (0x30c4, 0x3099), (0x30c6, 0x3099),
   (0x30c8, 0x3099), (0x30cf, 0x3099), (0x30cf, 0x309a), (0x30d2, 0x3099), (0x30d2, 0x309a),
   (0x30d5, 0x3099), (0x30d5, 0x309a), (0x30d8, 0x3099), (0x30d8, 0x309a), (0x30db, 0x3099),
   (0x30db, 0x309a), (0x30ef, 0x3099), (0x30f0, 0x3099), (0x30f1, 0x3099), (0x30f2, 0x3099),
   (0x30fd, 0x3099), (0x105d2, 0x307), (0x105da, 0x307), (0x11099, 0x110ba), (0x1109b, 0x110ba),
   (0x110a5, 0x110ba), (0x11131, 0x11127), (0x11132, 0x11127), (0x11347, 0x1133e),
   (0x11347, 0x11357), (0x11382, 0x113c9), (0x11384, 0x113bb), (0x1138b, 0x113c2),
   (0x11390, 0x113c9), (0x113c2, 0x113b8), (0x113c2, 0x113c2), (0x113c2, 0x113c9),
   (0x114b9, 0x114b0), (0x114b9, 0x114ba), (0x114b9, 0x114bd), (0x115b8, 0x115af),
   (0x115b9, 0x115af), (0x11935, 0x11930), (0x1611e, 0x1611e), (0x1611e, 0x1611f),
   (0x1611e, 0x16120), (0x1611e, 0x16129), (0x16121, 0x1611f), (0x16121, 0x16120),
   (0x16122, 0x1611f), (0x16129, 0x1611f), (0x16d63, 0x16d67), (0x16d67, 0x16d67),
   (0x16d69, 0x16d67)]

/-- Whether two letters of the Korean alphabet make a syllable, or a syllable and a last letter
another syllable. -/
def makeSyllable (base second : Nat) : Bool :=
  (0x1100 ≤ base && base ≤ 0x1112 && 0x1161 ≤ second && second ≤ 0x1175) ||
    (0xac00 ≤ base && base ≤ 0xd7a3 && (base - 0xac00) % 28 = 0 &&
      0x11a8 ≤ second && second ≤ 0x11c2)

/-- Whether a base character and a second character can be written as one. -/
def isComposable (base second : Char) : Bool :=
  composablePairs.contains (base.toNat, second.toNat) || makeSyllable base.toNat second.toNat

/-- Whether a text is composed that follows `base` and a mark of the class `mark`. A mark is out of
the reach of the base if a mark of the same class stands between them. -/
def isComposedBehind (base : Option Char) (mark : Option Nat) : List Char → Bool
  | [] => true
  | c :: rest =>
    let order := combiningClass c
    if order ≠ 0 ∧ mark.any (order < ·) then false
    else if mark.all (· < order) ∧ base.any (isComposable · c) then false
    else if order = 0 then isComposedBehind (some c) none rest
    else isComposedBehind base (some order) rest

/-- Whether a text is composed. -/
def isComposed (text : List Char) : Bool := isComposedBehind none none text

end EvmProbe.Domain
