/- This file defines white space and the trimming of texts. -/

namespace Reframe

namespace Text

/- The characters with the Unicode property `White_Space`. -/
def blanks : List Nat :=
  [0x9, 0xA, 0xB, 0xC, 0xD, 0x20, 0x85, 0xA0, 0x1680,
    0x2000, 0x2001, 0x2002, 0x2003, 0x2004, 0x2005,
    0x2006, 0x2007, 0x2008, 0x2009, 0x200A, 0x2028,
    0x2029, 0x202F, 0x205F, 0x3000]

def IsBlank
    (c : Char) : Prop :=
  c.toNat ∈ blanks

instance
    (c : Char) :
    Decidable (IsBlank c) := by
  unfold IsBlank
  infer_instance

def trimStart
    (cs : List Char) : List Char :=
  cs.dropWhile (fun c => IsBlank c)

/- Drop white space on both sides. -/
def trim
    (cs : List Char) : List Char :=
  (trimStart (trimStart cs).reverse).reverse

end Text

end Reframe
