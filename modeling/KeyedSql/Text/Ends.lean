/-!
# The ends of texts

`after?` takes a known beginning off a list of characters and `before?` a known end. `trimChars`
takes off the white space at both ends: the twenty-five characters that have the Unicode property
White_Space. A text of nothing else is blank.
-/

namespace KeyedSql.Text

/-! ## Known ends -/

/-- What follows `lead` in characters that begin with it. -/
def after? : List Char → List Char → Option (List Char)
  | [], cs => some cs
  | _ :: _, [] => none
  | d :: lead, c :: cs => if c = d then after? lead cs else none

/-- What comes before `tail` in characters that end with it. -/
def before? (tail cs : List Char) : Option (List Char) :=
  (after? tail.reverse cs.reverse).map List.reverse

theorem after?_eq_some_iff {lead cs rest : List Char} :
    after? lead cs = some rest ↔ cs = lead ++ rest := by
  induction lead generalizing cs with
  | nil => simp [after?]
  | cons d lead ih =>
    cases cs with
    | nil => simp [after?]
    | cons c cs => by_cases h : c = d <;> simp [after?, h, ih]

theorem before?_eq_some_iff {tail cs rest : List Char} :
    before? tail cs = some rest ↔ cs = rest ++ tail := by
  simp only [before?, Option.map_eq_some_iff, after?_eq_some_iff]
  constructor
  · rintro ⟨r, h, rfl⟩
    simpa using congrArg List.reverse h
  · rintro rfl
    exact ⟨rest.reverse, by simp, by simp⟩

/-! ## White space -/

/-- The characters with the Unicode property White_Space. -/
def isSpace (c : Char) : Bool :=
  (0x09 ≤ c.toNat && c.toNat ≤ 0x0D) || c.toNat == 0x20 || c.toNat == 0x85 || c.toNat == 0xA0 ||
    c.toNat == 0x1680 || (0x2000 ≤ c.toNat && c.toNat ≤ 0x200A) || c.toNat == 0x2028 ||
    c.toNat == 0x2029 || c.toNat == 0x202F || c.toNat == 0x205F || c.toNat == 0x3000

/-- The characters without the white space at either end. -/
def trimChars (cs : List Char) : List Char :=
  ((cs.dropWhile isSpace).reverse.dropWhile isSpace).reverse

/-- Whether a text is empty or holds white space alone. -/
def isBlank (s : String) : Bool :=
  s.toList.all isSpace

theorem length_dropWhile_le (p : Char → Bool) (cs : List Char) :
    (cs.dropWhile p).length ≤ cs.length :=
  (List.dropWhile_sublist p).length_le

theorem length_trimChars_le (cs : List Char) : (trimChars cs).length ≤ cs.length := by
  unfold trimChars
  have h₁ := length_dropWhile_le isSpace cs
  have h₂ := length_dropWhile_le isSpace (cs.dropWhile isSpace).reverse
  simp only [List.length_reverse] at h₂ ⊢
  omega

end KeyedSql.Text
