import Reframe.Text.CharWidth
import Reframe.Text.Emoji

/-
  This file defines how many terminal cells a line of text
  takes.

  Some characters join those behind them to one form, which
  is narrower or wider than its parts: emoji sequences, and
  ligatures of several scripts.  So a line is measured from
  its end, and each character adds what it changes about the
  width of the text behind it.

  Key definitions include:
    * `Text.Onset`
    * `Text.Tail`
    * `Onset.ofChar`
    * `Onset.joined?`
    * `Tail.extend`
    * `Text.cellWidth`
-/

namespace Reframe

namespace Text

------------------------------------------------------------
-- What A Text Begins With
------------------------------------------------------------

/-
  What a text begins with, as far as characters in front may
  join it.  An onset is linked if a joiner stands in front
  of it.
-/
inductive Onset where
| plain
/- A picture, or a sequence that is shown as one. -/
| picture
/- A skin tone. -/
| modifier
/- A letter of a flag. -/
| flagLetter
/- Two or more letters of flags. -/
| flagLetters
/- A joiner, and a picture behind it. -/
| linkedPicture
/- A keycap in front of a linked picture. -/
| linkedKeycap
/- One letter of a flag in front of a linked picture. -/
| linkedFlagLetter
/- Whole flags in front of a linked picture. -/
| linkedFlags
/- Whole flags and a letter in front of a linked picture. -/
| linkedOddFlags
/- The end of a name in front of a linked picture. -/
| linkedTagEnd
/- A name that begins with some letters. -/
| linkedTagLetters (n : Nat)
/- A name that begins with some digits. -/
| linkedTagDigits (n : Nat)
/- The Arabic letter alef. -/
| alef
/- The Hebrew letter lamed. -/
| lamed (linked : Bool)
/- The Buginese letter ya. -/
| ya (linked : Bool)
/- The Buginese vowel i in front of a linked ya. -/
| vowelYa
/- A consonant of Tifinagh. -/
| consonant (linked : Bool)
/- The joiner of Tifinagh in front of a consonant. -/
| joinedConsonant
/- A low tone of Lisu. -/
| lowTone
/- The Old Turkic letter i. -/
| orkhonI (linked : Bool)
/- A letter of Khmer with a form below the line. -/
| khmerLetter
/- The vowel sign e of Kirat Rai. -/
| signE
/- The vowel sign ai of Kirat Rai. -/
| signAi
deriving DecidableEq, Repr

------------------------------------------------------------
-- Letters Of Ligatures
------------------------------------------------------------

/- The forms of the Arabic letter alef. -/
def alefs : CodeRanges :=
  [(0x622, 0x623), (0x625, 0x625), (0x627, 0x627),
    (0x671, 0x673), (0x675, 0x675), (0x773, 0x774),
    (0x870, 0x882)]

/- The forms of the Arabic letter lam. -/
def lams : CodeRanges :=
  [(0x644, 0x644), (0x6B5, 0x6B8), (0x76A, 0x76A),
    (0x8A6, 0x8A6), (0x8C7, 0x8C7)]

/- The letters of Khmer with a form below the line. -/
def khmerLetters : CodeRanges :=
  [(0x1780, 0x1782), (0x1784, 0x1787), (0x1789, 0x178C),
    (0x178E, 0x1793), (0x1795, 0x1798), (0x179B, 0x179D),
    (0x17A0, 0x17A0), (0x17A2, 0x17A2), (0x17A7, 0x17A7),
    (0x17AB, 0x17AC), (0x17AF, 0x17AF)]

/- The consonants of Tifinagh. -/
def consonants : CodeRanges :=
  [(0x2D31, 0x2D65), (0x2D6F, 0x2D6F)]

/- The high tones of Lisu. -/
def highTones : CodeRanges :=
  [(0xA4F8, 0xA4FB)]

/- The low tones of Lisu. -/
def lowTones : CodeRanges :=
  [(0xA4FC, 0xA4FD)]

/-
  Code points without a width that do not let the Arabic
  letters on both sides join.
-/
def arabicBreaks : CodeRanges :=
  [(0x605, 0x605), (0x890, 0x891), (0x8E2, 0x8E2),
    (0x9BE, 0x9BE), (0x9D7, 0x9D7), (0xB3E, 0xB3E),
    (0xB57, 0xB57), (0xBBE, 0xBBE), (0xBD7, 0xBD7),
    (0xCC0, 0xCC0), (0xCC2, 0xCC2), (0xCC7, 0xCC8),
    (0xCCA, 0xCCB), (0xCD5, 0xCD6), (0xD3E, 0xD3E),
    (0xD4E, 0xD4E), (0xD57, 0xD57), (0xDCF, 0xDCF),
    (0xDDF, 0xDDF), (0x1160, 0x11FF), (0x1715, 0x1715),
    (0x1734, 0x1734), (0x180E, 0x180E), (0x1B35, 0x1B35),
    (0x1B3B, 0x1B3B), (0x1B3D, 0x1B3D), (0x1B43, 0x1B44),
    (0x1BAA, 0x1BAA), (0x1BF2, 0x1BF3), (0x200C, 0x200D),
    (0x2065, 0x2069), (0x302E, 0x302F), (0x3164, 0x3164),
    (0xA8FA, 0xA8FA), (0xA953, 0xA953), (0xA9C0, 0xA9C0),
    (0xD7B0, 0xD7C6), (0xD7CB, 0xD7FB), (0xFFA0, 0xFFA0),
    (0xFFF0, 0xFFF8), (0x111C0, 0x111C0),
    (0x111C2, 0x111C3), (0x11235, 0x11235),
    (0x1133E, 0x1133E), (0x1134D, 0x1134D),
    (0x11357, 0x11357), (0x113B8, 0x113B8),
    (0x113C2, 0x113C2), (0x113C5, 0x113C5),
    (0x113C7, 0x113C9), (0x113CF, 0x113CF),
    (0x113D1, 0x113D1), (0x114B0, 0x114B0),
    (0x114BD, 0x114BD), (0x115AF, 0x115AF),
    (0x116B6, 0x116B6), (0x11930, 0x11930),
    (0x1193D, 0x1193D), (0x1193F, 0x1193F),
    (0x11941, 0x11941), (0x11A84, 0x11A89),
    (0x11D46, 0x11D46), (0x11F02, 0x11F02),
    (0x11F41, 0x11F41), (0x16FF0, 0x16FF1),
    (0x1D165, 0x1D166), (0x1D16D, 0x1D172),
    (0xE0000, 0xE0000), (0xE0002, 0xE001F),
    (0xE0080, 0xE00FF), (0xE01F0, 0xE0FFF)]

/- A mark that Arabic letters join across. -/
def IsArabicMark
    (c : Char) : Prop :=
  charCells c = 0 ∧ ¬ arabicBreaks.Has c

instance
    (c : Char) :
    Decidable (IsArabicMark c) := by
  unfold IsArabicMark
  infer_instance

/- Marks that other ligatures are formed across. -/
def ligatureMarks : CodeRanges :=
  [(0x34F, 0x34F), (0x17B4, 0x17B5), (0x180B, 0x180D),
    (0x180F, 0x180F), (0xFE00, 0xFE0F), (0xE0100, 0xE01EF)]

/- The zero width joiner. -/
def IsJoiner
    (c : Char) : Prop :=
  c.toNat = 0x200D

instance
    (c : Char) :
    Decidable (IsJoiner c) := by
  unfold IsJoiner
  infer_instance

/- A quotation mark that has a wide form. -/
def IsCurledQuote
    (c : Char) : Prop :=
  c.toNat ∈ [0x2018, 0x2019, 0x201C, 0x201D]

instance
    (c : Char) :
    Decidable (IsCurledQuote c) := by
  unfold IsCurledQuote
  infer_instance

------------------------------------------------------------
-- Onsets
------------------------------------------------------------

namespace Onset

/- What a character begins that joins nothing behind it. -/
def ofChar
    (c : Char) : Onset :=
  if Emoji.IsPicture c then .picture
  else if Emoji.IsModifier c then .modifier
  else if Emoji.IsFlagLetter c then .flagLetter
  else if alefs.Has c then .alef
  else if khmerLetters.Has c then .khmerLetter
  else if consonants.Has c then .consonant false
  else if lowTones.Has c then .lowTone
  else if c.toNat = 0x5DC then .lamed false
  else if c.toNat = 0x1A10 then .ya false
  else if c.toNat = 0x10C03 then .orkhonI false
  else if c.toNat = 0x16D67 then .signE
  else if c.toNat = 0x16D68 then .signAi
  else .plain

/- The onset is a letter of a ligature. -/
def IsLetter : Onset → Prop
| .alef | .lamed _ | .ya _ | .vowelYa | .consonant _
| .joinedConsonant | .lowTone | .orkhonI _
| .khmerLetter => True
| _ => False

instance
    (o : Onset) :
    Decidable o.IsLetter := by
  cases o <;> unfold IsLetter <;> infer_instance

/- The ligature is formed across joiners and marks. -/
def CrossesMarks
    (o : Onset) : Prop :=
  o.IsLetter ∧ o ≠ .alef

instance
    (o : Onset) :
    Decidable o.CrossesMarks := by
  unfold CrossesMarks
  infer_instance

/- A picture is linked, and perhaps a keycap with it. -/
def IsLinkedPicture
    (o : Onset) : Prop :=
  o = .linkedPicture ∨ o = .linkedKeycap

instance
    (o : Onset) :
    Decidable o.IsLinkedPicture := by
  unfold IsLinkedPicture
  infer_instance

/- The onset with a joiner in front of it. -/
def linked : Onset → Onset
| .lamed _ => .lamed true
| .ya _ => .ya true
| .consonant _ => .consonant true
| .orkhonI _ => .orkhonI true
| o => o

/-
  What a character in front of a name makes of it, if the
  name may go on there.
-/
def named? : Onset → Char → Option Onset
| .linkedTagEnd, c =>
    if Emoji.IsTagLetter c then some (.linkedTagLetters 1)
    else if Emoji.IsTagDigit c then some (.linkedTagDigits 1)
    else none
| .linkedTagLetters n, c =>
    if Emoji.IsTagLetter c ∧ n < 6 then
      some (.linkedTagLetters (n + 1))
    else if Emoji.IsTagDigit c ∧ n < 5 then
      some (.linkedTagDigits 1)
    else if c.toNat = 0x1F3F4 ∧ 3 ≤ n then some .picture
    else none
| .linkedTagDigits n, c =>
    if Emoji.IsTagDigit c ∧ n < 3 then
      some (.linkedTagDigits (n + 1))
    else if c.toNat = 0x1F3F4 ∧ n = 3 then some .picture
    else none
| _, _ => none

/-
  What a character in front of emoji changes about their
  width, and what they are together, if it joins them.
-/
def emoji?
    (o : Onset)
    (c : Char) : Option (Int × Onset) :=
  match o with
  | .modifier =>
      if Emoji.TakesModifier c then some (0, .picture)
      else if IsJoiner c then some (0, .linkedPicture)
      else none
  | .flagLetter =>
      if Emoji.IsFlagLetter c then some (1, .flagLetters)
      else none
  | .flagLetters =>
      if Emoji.IsFlagLetter c then some (1, .flagLetters)
      else if IsJoiner c then some (0, .linkedPicture)
      else none
  | .picture =>
      if IsJoiner c then some (0, .linkedPicture) else none
  | .linkedPicture =>
      if c.toNat = 0x20E3 then some (0, .linkedKeycap)
      else if Emoji.IsFlagLetter c then
        some (1, .linkedFlagLetter)
      else if Emoji.IsModifier c then some (0, .modifier)
      else if c.toNat = 0xE007F then some (0, .linkedTagEnd)
      else if Emoji.IsPicture c then some (0, .picture)
      else none
  | .linkedFlagLetter =>
      if Emoji.IsFlagLetter c then some (-1, .linkedFlags)
      else none
  | .linkedFlags =>
      if Emoji.IsFlagLetter c then some (3, .linkedOddFlags)
      else if IsJoiner c then some (0, .linkedPicture)
      else none
  | .linkedOddFlags =>
      if Emoji.IsFlagLetter c then some (-1, .linkedFlags)
      else if IsJoiner c then some (0, .linkedPicture)
      else none
  | o => (o.named? c).map (fun o => (0, o))

/-
  What a character in front of a letter changes about its
  width, and what they are together, if they join.
-/
def ligature?
    (o : Onset)
    (c : Char) : Option (Int × Onset) :=
  match o with
  | .alef =>
      if lams.Has c then some (0, .plain)
      else if IsArabicMark c then some (0, .alef)
      else none
  | .lamed true =>
      if c.toNat = 0x5D0 then some (0, .plain) else none
  | .khmerLetter =>
      if c.toNat = 0x17D2 then some (-1, .plain) else none
  | .ya true =>
      if c.toNat = 0x1A17 then some (0, .vowelYa) else none
  | .vowelYa =>
      if c.toNat = 0x1A15 then some (0, .plain) else none
  | .consonant l =>
      if c.toNat = 0x2D7F then some (1, .joinedConsonant)
      else if l ∧ consonants.Has c then some (0, .plain)
      else none
  | .joinedConsonant =>
      if consonants.Has c then some (-1, .plain) else none
  | .lowTone =>
      if highTones.Has c then some (0, .plain) else none
  | .orkhonI true =>
      if c.toNat = 0x10C32 then some (0, .plain) else none
  | .signE =>
      if c.toNat = 0x16D63 ∨ c.toNat = 0x16D69 then
        some (0, .plain)
      else if c.toNat = 0x16D67 then some (0, .signAi)
      else if c.toNat = 0x16D68 then some (1, .signE)
      else none
  | .signAi =>
      if c.toNat = 0x16D63 then some (0, .plain) else none
  | _ => none

/-
  What a character in front of an onset changes about the
  width, and what they are together, if it joins the onset.
-/
def joined?
    (o : Onset)
    (c : Char) : Option (Int × Onset) :=
  if o.CrossesMarks ∧ IsJoiner c then some (0, o.linked)
  else if o.CrossesMarks ∧ ligatureMarks.Has c then
    some (0, o)
  else
    match o.emoji? c with
    | some r => some r
    | none => o.ligature? c

end Onset

------------------------------------------------------------
-- Selectors
------------------------------------------------------------

/- A character that chooses the form of the one in front. -/
inductive Selector where
| picture
| text
| wide
deriving DecidableEq, Repr

/- The selector that a character is, if it is one. -/
def Selector.ofChar?
    (c : Char) : Option Selector :=
  if c.toNat = 0xFE0F then some .picture
  else if c.toNat = 0xFE0E then some .text
  else if c.toNat = 0xFE01 then some .wide
  else none

/-
  The beginning of a text that is measured: an onset, and a
  selector in front of it, if there is one.
-/
structure Tail where
  onset : Onset := .plain
  selector : Option Selector := none
deriving DecidableEq, Repr

namespace Tail

/-
  Put a selector in front.  Only letters of ligatures and
  linked pictures are still of interest behind it.
-/
def select
    (t : Tail)
    (s : Selector) : Tail :=
  if t.onset.IsLetter ∨
      (s = .picture ∧ t.onset.IsLinkedPicture) then
    ⟨t.onset, some s⟩
  else ⟨.plain, some s⟩

/- Drop a selector that chose nothing. -/
def unselected
    (t : Tail) : Tail :=
  match t.selector with
  | none => t
  | some _ =>
      if t.onset.IsLetter then ⟨t.onset, none⟩ else {}

/-
  The form of a character that the selector behind it
  chooses, as its width and what it begins.
-/
def chosen?
    (t : Tail)
    (c : Char) : Option (Int × Onset) :=
  match t.selector with
  | none => none
  | some .picture =>
      if Emoji.TakesSelector c then
        some
          (if t.onset.IsLinkedPicture then 0 else 2, .picture)
      else none
  | some .text =>
      if Emoji.HasTextForm c then some (1, .plain) else none
  | some .wide =>
      if IsCurledQuote c then some (2, .plain) else none

/-
  Put a character in front.  The number is what it adds to
  the width.
-/
def extend
    (t : Tail)
    (c : Char) : Int × Tail :=
  match t.chosen? c with
  | some (n, o) => (n, ⟨o, none⟩)
  | none =>
      match Selector.ofChar? c with
      | some s => (0, t.unselected.select s)
      | none =>
          match t.unselected.onset.joined? c with
          | some (n, o) => (n, ⟨o, none⟩)
          | none => (charCells c, ⟨Onset.ofChar c, none⟩)

end Tail

------------------------------------------------------------
-- The Width Of A Line
------------------------------------------------------------

/- The width of a text, and what it begins with. -/
def measured
    (cs : List Char) : Int × Tail :=
  cs.foldr
    (fun c m =>
      let step := m.2.extend c
      (m.1 + step.1, step.2))
    (0, {})

/- The number of cells that a line of text takes. -/
def cellWidth
    (cs : List Char) : Nat :=
  (measured cs).1.toNat

end Text

end Reframe
