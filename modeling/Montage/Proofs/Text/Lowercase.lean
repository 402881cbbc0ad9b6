/-
  Montage.Proofs.Text.Lowercase

  What lower case makes of single characters.  Beyond ASCII, only the capital I with a dot
  and the sign for Kelvin give ASCII letters, and nothing gives another character of ASCII.
  So a word without these two letters begins a text in lower case if and only if the text
  begins with the word in some case.
-/
import Mathlib.Data.List.Basic
import Montage.Text.FinalSigma

namespace Montage.Text

/-! ## Characters of ASCII -/

/-- What holds of the first codes holds of the characters of ASCII. -/
theorem forall_ascii {property : Char → Prop} (h : ∀ code < 0x80, property (Char.ofNat code))
    {c : Char} (hc : c.toNat < 0x80) : property c := by
  have hcode := h c.toNat hc
  rwa [Char.ofNat_toNat] at hcode

/-- Lower case makes a sign or a digit only of itself. -/
theorem eq_of_toLower {c : Char} (hc : c.toNat < 0x80) :
    c.toLower.isAlpha = false → c.toLower = c :=
  @forall_ascii (fun c => c.toLower.isAlpha = false → c.toLower = c) (by decide +kernel) c hc

theorem toLower_beyond {c : Char} (hc : 0x80 ≤ c.toNat) : c.toLower = c := by
  have hz : 'Z'.val.toNat = 90 := rfl
  have hval : c.val.toNat = c.toNat := rfl
  refine dif_neg ?_
  rintro ⟨-, hle⟩
  rw [UInt32.le_iff_toNat_le] at hle
  omega

/-! ## Characters beyond ASCII -/

/-- The small forms of capitals beyond ASCII lie beyond ASCII, but for the sign for Kelvin. -/
theorem small_of_mem_capitalRuns : ∀ run ∈ capitalRuns, 0x80 ≤ run.2.1 →
    run = (0x212a, 0x212a, 1, -8383) ∨
      0x80 ≤ (run.1 : Int) + run.2.2.2 ∧
        ((run.2.1 : Int) + run.2.2.2 < 0xd800 ∨
          0xe000 ≤ (run.1 : Int) + run.2.2.2 ∧ (run.2.1 : Int) + run.2.2.2 < 0x110000) := by
  decide +kernel

theorem mem_lowerChar_beyond {c d : Char} (hc : 0x80 ≤ c.toNat) (hd : d ∈ lowerChar c) :
    0x80 ≤ d.toNat ∨ d = 'i' ∨ d = 'k' := by
  unfold lowerChar at hd
  rw [if_neg (Nat.not_lt_of_ge hc)] at hd
  split at hd
  · simp only [List.mem_cons, List.not_mem_nil, or_false] at hd
    rcases hd with rfl | rfl
    · exact .inr (.inl rfl)
    · exact .inl (by decide)
  · dsimp only at hd
    split at hd
    next first last step distance hfind =>
      obtain rfl := List.mem_singleton.mp hd
      have hrun := List.find?_some hfind
      simp only [Bool.and_eq_true, decide_eq_true_eq] at hrun
      obtain ⟨⟨hfirst, hlast⟩, -⟩ := hrun
      rcases small_of_mem_capitalRuns _ (List.mem_of_find?_eq_some hfind)
        (Nat.le_trans hc hlast) with hkelvin | ⟨hlow, hvalid⟩
      · cases hkelvin
        obtain hcode : c.toNat = 0x212a := Nat.le_antisymm hlast hfirst
        rw [hcode]
        exact .inr (.inr (by decide))
      · dsimp only at hlow hvalid
        have hcode : Nat.isValidChar ((c.toNat : Int) + distance).toNat := by
          unfold Nat.isValidChar
          omega
        have hsame : (Char.ofNat ((c.toNat : Int) + distance).toNat).toNat =
            ((c.toNat : Int) + distance).toNat := by
          rw [Char.ofNat, dif_pos hcode]
          rfl
        left
        rw [hsame]
        omega
    next hfind =>
      obtain rfl := List.mem_singleton.mp hd
      exact .inl hc

/-- A sign or digit of ASCII stands in a text in lower case only for itself. -/
theorem eq_of_mem_lowerChar {c d : Char} (hascii : d.toNat < 0x80) (hsign : d.isAlpha = false)
    (hd : d ∈ lowerChar c) : c = d := by
  by_cases hc : c.toNat < 0x80
  · rw [lowerChar, if_pos hc] at hd
    obtain rfl := List.mem_singleton.mp hd
    exact (eq_of_toLower hc hsign).symm
  · rcases mem_lowerChar_beyond (Nat.le_of_not_lt hc) hd with hbeyond | rfl | rfl
    · exact absurd hascii (Nat.not_lt_of_ge hbeyond)
    · cases hsign
    · cases hsign

/-- A final sigma is a small letter as others are. -/
theorem eq_of_mem_lowerAfter {d : Char} (hascii : d.toNat < 0x80) (hsign : d.isAlpha = false)
    {before text : List Char} (hd : d ∈ lowerAfter before text) : d ∈ text := by
  induction text generalizing before with
  | nil => cases hd
  | cons c rest ih =>
      rcases List.mem_append.mp hd with hhere | hrest
      · split at hhere
        · obtain rfl := List.mem_singleton.mp hhere
          exact absurd hascii (by decide)
        · rw [eq_of_mem_lowerChar hascii hsign hhere]
          exact List.mem_cons_self
      · exact List.mem_cons_of_mem c (ih hrest)

/-! ## Words at the start of a text -/

/-- Whether a word keeps to letters and signs that only come from ASCII. -/
def IsPlainWord (word : List Char) : Prop :=
  ∀ d ∈ word, d.toNat < 0x80 ∧ d ≠ 'i' ∧ d ≠ 'k'

instance (word : List Char) : Decidable (IsPlainWord word) :=
  @List.decidableBAll Char _ (fun _ => inferInstance) word

theorem cons_prefix_lowerChar {c d : Char} (hd : d.toNat < 0x80 ∧ d ≠ 'i' ∧ d ≠ 'k')
    (word rest : List Char) :
    d :: word <+: lowerChar c ++ rest ↔ c.toLower = d ∧ word <+: rest := by
  by_cases hc : c.toNat < 0x80
  · rw [lowerChar, if_pos hc, List.singleton_append, List.cons_prefix_cons]
    exact and_congr_left' eq_comm
  · have hbeyond := Nat.le_of_not_lt hc
    -- the first character of the small form would have to be the letter
    have hne : lowerChar c ≠ [] := by
      unfold lowerChar
      split
      · exact List.cons_ne_nil _ _
      · split
        · exact List.cons_ne_nil _ _
        · dsimp only
          split <;> exact List.cons_ne_nil _ _
    obtain ⟨first, more, hlower⟩ := List.exists_cons_of_ne_nil hne
    have hfirst : first ∈ lowerChar c := hlower ▸ List.mem_cons_self
    rw [hlower, List.cons_append, List.cons_prefix_cons, toLower_beyond hbeyond]
    constructor
    · rintro ⟨rfl, -⟩
      rcases mem_lowerChar_beyond hbeyond hfirst with hlarge | hi | hk
      · exact absurd hd.1 (Nat.not_lt_of_ge hlarge)
      · exact absurd hi hd.2.1
      · exact absurd hk hd.2.2
    · rintro ⟨rfl, -⟩
      exact absurd hd.1 hc

/-- A text in lower case begins with a word if and only if the text begins with it in some
case. -/
theorem prefix_lower_iff {word : List Char} (hword : IsPlainWord word) (text : List Char) :
    word <+: text.flatMap lowerChar ↔ (text.take word.length).map Char.toLower = word := by
  induction word generalizing text with
  | nil => simp
  | cons d word ih =>
      obtain ⟨hd, hrest⟩ := List.forall_mem_cons.mp hword
      cases text with
      | nil => simp
      | cons c rest =>
          rw [List.flatMap_cons, cons_prefix_lowerChar hd, ih hrest]
          simp

end Montage.Text
