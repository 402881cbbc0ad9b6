/-
  Montage.Proofs.Text.Sequences

  What decoding with replacement means.  The bytes of a text are those of its characters;
  of other bytes, every maximal part that could still have become a character is one
  damaged part.  The decoder reads one byte at a time and comes to the same text.
-/
import Mathlib.Data.List.Induction
import Montage.Text.Utf8

namespace Montage.Text.Utf8

open String (utf8EncodeChar)

/-! ## Texts and bytes -/

/-- Whether bytes are the start of a character that has more of them. -/
def IsUnfinished (part : List UInt8) : Prop :=
  part ≠ [] ∧ ∃ c, part <+: utf8EncodeChar c ∧ part ≠ utf8EncodeChar c

/-- The text that bytes stand for. -/
inductive Decoding : List UInt8 → List Char → Prop where
  | nil : Decoding [] []
  /-- The bytes of a character. -/
  | char {rest text} (c : Char) :
      Decoding rest text → Decoding (utf8EncodeChar c ++ rest) (c :: text)
  /-- A byte that no character starts with. -/
  | stray {byte rest text} :
      (∀ c, ¬ [byte] <+: utf8EncodeChar c) →
      Decoding rest text → Decoding (byte :: rest) (replacement :: text)
  /-- The start of a character that ends, or that the next byte does not fit. -/
  | damaged {part rest text} :
      IsUnfinished part →
      (∀ byte ∈ rest.head?, ∀ c, ¬ part ++ [byte] <+: utf8EncodeChar c) →
      Decoding rest text → Decoding (part ++ rest) (replacement :: text)

/-- Bytes less an unfinished character at their end, if there is one. -/
inductive Clipped : List UInt8 → List UInt8 → Prop where
  | cut {whole part} : IsUnfinished part → Clipped (whole ++ part) whole
  | same {bytes} : (∀ part, IsUnfinished part → ¬ part <:+ bytes) → Clipped bytes bytes

/-- All bytes stand for some text. -/
theorem exists_decoding (bytes : List UInt8) : ∃ text, Decoding bytes text := by
  -- `part` holds the bytes of the character that is being read
  suffices h : ∀ part, part = [] ∨ IsUnfinished part → ∃ text, Decoding (part ++ bytes) text from
    h [] (.inl rfl)
  induction bytes with
  | nil =>
      intro part hpart
      rw [List.append_nil]
      rcases hpart with rfl | hpart
      · exact ⟨[], .nil⟩
      · refine ⟨[replacement], ?_⟩
        rw [← List.append_nil part]
        exact .damaged hpart (by simp) .nil
  | cons byte rest ih =>
      -- a byte that fits finishes the character or leaves it unfinished
      have hfits : ∀ part c, part ++ [byte] <+: utf8EncodeChar c →
          ∃ text, Decoding (part ++ byte :: rest) text := by
        intro part c hprefix
        rw [List.append_cons]
        by_cases hwhole : part ++ [byte] = utf8EncodeChar c
        · obtain ⟨text, htext⟩ := ih [] (.inl rfl)
          rw [hwhole]
          exact ⟨c :: text, .char c htext⟩
        · exact ih (part ++ [byte]) (.inr ⟨by simp, c, hprefix, hwhole⟩)
      have hfirst : ∃ text, Decoding (byte :: rest) text := by
        by_cases hstart : ∃ c, [byte] <+: utf8EncodeChar c
        · obtain ⟨c, hprefix⟩ := hstart
          exact hfits [] c hprefix
        · obtain ⟨text, htext⟩ := ih [] (.inl rfl)
          exact ⟨replacement :: text, .stray (not_exists.mp hstart) htext⟩
      intro part hpart
      rcases hpart with rfl | hpart
      · exact hfirst
      · by_cases hnext : ∃ c, part ++ [byte] <+: utf8EncodeChar c
        · obtain ⟨c, hprefix⟩ := hnext
          exact hfits part c hprefix
        · obtain ⟨text, htext⟩ := hfirst
          refine ⟨replacement :: text, .damaged hpart ?_ htext⟩
          intro other hother
          obtain rfl : byte = other := Option.some.inj hother
          exact not_exists.mp hnext

/-- Of all bytes an unfinished end can be clipped. -/
theorem exists_clipped (bytes : List UInt8) : ∃ whole, Clipped bytes whole := by
  by_cases h : ∃ part, IsUnfinished part ∧ part <:+ bytes
  · obtain ⟨part, hpart, whole, rfl⟩ := h
    exact ⟨whole, .cut hpart⟩
  · exact ⟨bytes, .same fun part hpart hsuffix => h ⟨part, hpart, hsuffix⟩⟩

/-! ## The bytes of one character -/

/-- A further byte; nothing follows in a character that is complete. -/
def Fit.advance : Fit → UInt8 → Option Fit
  | .complete _, _ => none
  | .unfinished pending, byte => next pending byte.toNat

/-- What the bytes of one character lead to. -/
def reach : List UInt8 → Option Fit
  | [] => none
  | byte :: rest => (first byte.toNat).bind fun fit => rest.foldlM Fit.advance fit

theorem reach_append {part : List UInt8} (hpart : part ≠ []) (rest : List UInt8) :
    reach (part ++ rest) = (reach part).bind fun fit => rest.foldlM Fit.advance fit := by
  cases part with
  | nil => exact absurd rfl hpart
  | cons byte more =>
      show (first byte.toNat).bind (fun fit => (more ++ rest).foldlM Fit.advance fit) =
        ((first byte.toNat).bind fun fit => more.foldlM Fit.advance fit).bind _
      rw [Option.bind_assoc]
      simp only [List.foldlM_append, Option.bind_eq_bind]

theorem reach_concat {part : List UInt8} (hpart : part ≠ []) (byte : UInt8) :
    reach (part ++ [byte]) = (reach part).bind (·.advance byte) := by
  rw [reach_append hpart]
  simp only [List.foldlM_cons, List.foldlM_nil, bind_pure]

theorem reach_singleton (byte : UInt8) : reach [byte] = first byte.toNat :=
  Option.bind_fun_some _

/-- The least and the greatest second byte depend on the first one. -/
theorem first_eq (byte : Nat) :
    first byte =
      if byte < 0x80 then some (.complete (Char.ofNat byte))
      else if 0xc2 ≤ byte ∧ byte ≤ 0xdf then some (.unfinished ⟨1, 0x80, 0xbf, byte - 0xc0⟩)
      else if 0xe0 ≤ byte ∧ byte ≤ 0xef then
        some (.unfinished ⟨2, if byte = 0xe0 then 0xa0 else 0x80,
          if byte = 0xed then 0x9f else 0xbf, byte - 0xe0⟩)
      else if 0xf0 ≤ byte ∧ byte ≤ 0xf4 then
        some (.unfinished ⟨3, if byte = 0xf0 then 0x90 else 0x80,
          if byte = 0xf4 then 0x8f else 0xbf, byte - 0xf0⟩)
      else none := by
  unfold first
  split_ifs <;> first
    | omega
    | simp only [Option.some.injEq, Fit.unfinished.injEq, Pending.mk.injEq, true_and]; omega
    | rfl

theorem next_eq_some_iff {pending : Pending} {byte : Nat} {fit : Fit} :
    next pending byte = some fit ↔
      (pending.least ≤ byte ∧ byte ≤ pending.greatest) ∧
        fit = if pending.owed ≤ 1 then .complete (Char.ofNat (64 * pending.bits + (byte - 0x80)))
          else .unfinished ⟨pending.owed - 1, 0x80, 0xbf, 64 * pending.bits + (byte - 0x80)⟩ := by
  unfold next
  by_cases hrange : pending.least ≤ byte ∧ byte ≤ pending.greatest
  · rw [if_pos hrange, and_iff_right hrange]
    dsimp only
    split <;> exact Option.some_inj.trans eq_comm
  · rw [if_neg hrange]
    exact iff_of_false nofun fun h => hrange h.1

section Tails

variable {owed least greatest bits : Nat} {bytes : List UInt8} {c : Char}

/-- The last byte of a character. -/
theorem foldlM_last :
    bytes.foldlM Fit.advance (.unfinished ⟨1, least, greatest, bits⟩) = some (.complete c) ↔
      ∃ byte, bytes = [byte] ∧ (least ≤ byte.toNat ∧ byte.toNat ≤ greatest) ∧
        c = Char.ofNat (64 * bits + (byte.toNat - 0x80)) := by
  cases bytes with
  | nil => simp
  | cons byte rest =>
      rw [List.foldlM_cons, Option.bind_eq_bind, Option.bind_eq_some_iff]
      constructor
      · rintro ⟨fit, hfit, hrest⟩
        obtain ⟨hrange, rfl⟩ := next_eq_some_iff.mp hfit
        cases rest with
        | nil => exact ⟨byte, rfl, hrange, (Fit.complete.inj (Option.some.inj hrest)).symm⟩
        | cons other rest => simp [Fit.advance] at hrest
      · rintro ⟨other, heq, hrange, hc⟩
        obtain ⟨rfl, rfl⟩ := List.cons.inj heq
        exact ⟨_, next_eq_some_iff.mpr ⟨hrange, (if_pos (Nat.le_refl 1)).symm⟩, by rw [hc]; rfl⟩

/-- A byte of a character that more bytes follow. -/
theorem foldlM_inner :
    bytes.foldlM Fit.advance (.unfinished ⟨owed + 2, least, greatest, bits⟩) =
        some (.complete c) ↔
      ∃ byte rest, bytes = byte :: rest ∧ (least ≤ byte.toNat ∧ byte.toNat ≤ greatest) ∧
        rest.foldlM Fit.advance
            (.unfinished ⟨owed + 1, 0x80, 0xbf, 64 * bits + (byte.toNat - 0x80)⟩) =
          some (.complete c) := by
  cases bytes with
  | nil => simp
  | cons byte rest =>
      rw [List.foldlM_cons, Option.bind_eq_bind, Option.bind_eq_some_iff]
      constructor
      · rintro ⟨fit, hfit, hrest⟩
        obtain ⟨hrange, rfl⟩ := next_eq_some_iff.mp hfit
        exact ⟨byte, rest, rfl, hrange, hrest⟩
      · rintro ⟨other, more, heq, hrange, hrest⟩
        obtain ⟨rfl, rfl⟩ := List.cons.inj heq
        exact ⟨_, next_eq_some_iff.mpr ⟨hrange, rfl⟩, hrest⟩

/-- No byte follows a complete character. -/
theorem foldlM_complete {d : Char} :
    bytes.foldlM Fit.advance (.complete d) = some (.complete c) ↔ bytes = [] ∧ c = d := by
  cases bytes with
  | nil => simp [eq_comm]
  | cons byte rest => simp [Fit.advance]

end Tails

theorem toNat_charOfNat {v : Nat} (h : v.isValidChar) : (Char.ofNat v).toNat = v := by
  rw [Char.ofNat, dif_pos h]
  rfl

theorem eq_utf8EncodeChar_of_reach {bytes : List UInt8} {c : Char}
    (h : reach bytes = some (.complete c)) : bytes = utf8EncodeChar c := by
  cases bytes with
  | nil => exact absurd h nofun
  | cons a rest =>
      have hbyte : ∀ (byte : UInt8) (n : Nat), byte.toNat = n → UInt8.ofNat n = byte := by
        rintro byte _ rfl
        exact UInt8.ofNat_toNat
      rw [reach, first_eq] at h
      by_cases h1 : a.toNat < 0x80
      · rw [if_pos h1] at h
        obtain ⟨rfl, hc⟩ := foldlM_complete.mp h
        have hv : c.val.toNat = a.toNat := hc ▸ toNat_charOfNat (.inl (by omega))
        rw [utf8EncodeChar, hv, if_pos (by omega), UInt8.ofNat_toNat]
      rw [if_neg h1] at h
      by_cases h2 : 0xc2 ≤ a.toNat ∧ a.toNat ≤ 0xdf
      · rw [if_pos h2] at h
        obtain ⟨b, rfl, hb, hc⟩ := foldlM_last.mp h
        have hv : c.val.toNat = _ := hc ▸ toNat_charOfNat (.inl (by omega))
        rw [utf8EncodeChar, hv, if_neg (by omega), if_pos (by omega), hbyte a _ (by omega),
          hbyte b _ (by omega)]
      rw [if_neg h2] at h
      by_cases h3 : 0xe0 ≤ a.toNat ∧ a.toNat ≤ 0xef
      · rw [if_pos h3] at h
        obtain ⟨b, rest, rfl, hb, h⟩ := foldlM_inner.mp h
        obtain ⟨d, rfl, hd, hc⟩ := foldlM_last.mp h
        -- the second byte keeps long forms of small numbers and surrogates out
        have hsecond : (0x80 ≤ b.toNat ∧ b.toNat ≤ 0xbf) ∧
            (a.toNat = 0xe0 → 0xa0 ≤ b.toNat) ∧ (a.toNat = 0xed → b.toNat ≤ 0x9f) := by
          split_ifs at hb <;> omega
        have hv : c.val.toNat = _ := hc ▸ toNat_charOfNat (by unfold Nat.isValidChar; omega)
        rw [utf8EncodeChar, hv, if_neg (by omega), if_neg (by omega), if_pos (by omega),
          hbyte a _ (by omega), hbyte b _ (by omega), hbyte d _ (by omega)]
      rw [if_neg h3] at h
      by_cases h4 : 0xf0 ≤ a.toNat ∧ a.toNat ≤ 0xf4
      · rw [if_pos h4] at h
        obtain ⟨b, rest, rfl, hb, h⟩ := foldlM_inner.mp h
        obtain ⟨d, rest, rfl, hd, h⟩ := foldlM_inner.mp h
        obtain ⟨e, rfl, he, hc⟩ := foldlM_last.mp h
        have hsecond : (0x80 ≤ b.toNat ∧ b.toNat ≤ 0xbf) ∧
            (a.toNat = 0xf0 → 0x90 ≤ b.toNat) ∧ (a.toNat = 0xf4 → b.toNat ≤ 0x8f) := by
          split_ifs at hb <;> omega
        have hv : c.val.toNat = _ := hc ▸ toNat_charOfNat (.inr (by omega))
        rw [utf8EncodeChar, hv, if_neg (by omega), if_neg (by omega), if_neg (by omega),
          hbyte a _ (by omega), hbyte b _ (by omega), hbyte d _ (by omega), hbyte e _ (by omega)]
      rw [if_neg h4] at h
      exact absurd h nofun

theorem reach_utf8EncodeChar (c : Char) : reach (utf8EncodeChar c) = some (.complete c) := by
  have hbyte : ∀ n < 256, (UInt8.ofNat n).toNat = n := fun n hn => by
    rw [UInt8.toNat_ofNat']
    omega
  have hvalid : c.val.toNat.isValidChar := c.valid
  have hvalue : ∀ n, n = c.val.toNat → c = Char.ofNat n := by
    rintro _ rfl
    exact (Char.ofNat_toNat c).symm
  rw [utf8EncodeChar]
  generalize c.val.toNat = v at hvalid hvalue
  unfold Nat.isValidChar at hvalid
  split_ifs with h1 h2 h3
  · rw [reach, hbyte v (by omega), first_eq, if_pos (by omega)]
    exact foldlM_complete.mpr ⟨rfl, hvalue _ rfl⟩
  · rw [reach, hbyte _ (by omega), first_eq, if_neg (by omega), if_pos (by omega)]
    refine foldlM_last.mpr ⟨_, rfl, ?_, hvalue _ ?_⟩
    · rw [hbyte _ (by omega)]
      omega
    · rw [hbyte _ (by omega)]
      omega
  · rw [reach, hbyte _ (by omega), first_eq, if_neg (by omega), if_neg (by omega),
      if_pos (by omega)]
    refine foldlM_inner.mpr ⟨_, _, rfl, ?_, foldlM_last.mpr ⟨_, rfl, ?_, hvalue _ ?_⟩⟩
    · rw [hbyte _ (by omega)]
      split_ifs <;> omega
    · rw [hbyte _ (by omega)]
      omega
    · rw [hbyte _ (by omega), hbyte _ (by omega)]
      omega
  · rw [reach, hbyte _ (by omega), first_eq, if_neg (by omega), if_neg (by omega),
      if_neg (by omega), if_pos (by omega)]
    refine foldlM_inner.mpr ⟨_, _, rfl, ?_, foldlM_inner.mpr ⟨_, _, rfl, ?_,
      foldlM_last.mpr ⟨_, rfl, ?_, hvalue _ ?_⟩⟩⟩
    · rw [hbyte _ (by omega)]
      split_ifs <;> omega
    · rw [hbyte _ (by omega)]
      omega
    · rw [hbyte _ (by omega)]
      omega
    · rw [hbyte _ (by omega), hbyte _ (by omega), hbyte _ (by omega)]
      omega

/-! ## Unfinished characters -/

/-- Whether an unfinished character can be finished, byte after byte. -/
structure Pending.IsOpen (pending : Pending) : Prop where
  owed : 0 < pending.owed
  least : 0x80 ≤ pending.least
  range : pending.least ≤ pending.greatest
  greatest : pending.greatest ≤ 0xbf

theorem isOpen_of_first {byte : Nat} {pending : Pending}
    (h : first byte = some (.unfinished pending)) : pending.IsOpen := by
  rw [first_eq] at h
  split_ifs at h <;> cases h <;> constructor <;> dsimp only <;> omega

theorem isOpen_of_next {byte : Nat} {before pending : Pending}
    (h : next before byte = some (.unfinished pending)) : pending.IsOpen := by
  obtain ⟨-, hfit⟩ := next_eq_some_iff.mp h
  split_ifs at hfit
  cases hfit
  constructor <;> dsimp only <;> omega

theorem isOpen_of_reach {part : List UInt8} {pending : Pending}
    (h : reach part = some (.unfinished pending)) : pending.IsOpen := by
  rcases List.eq_nil_or_concat part with rfl | ⟨before, byte, rfl⟩
  · exact absurd h nofun
  · rw [List.concat_eq_append] at h
    by_cases hbefore : before = []
    · subst hbefore
      exact isOpen_of_first ((reach_singleton byte).symm.trans h)
    · rw [reach_concat hbefore, Option.bind_eq_some_iff] at h
      obtain ⟨fit, -, hfit⟩ := h
      cases fit with
      | complete c => exact absurd hfit nofun
      | unfinished earlier => exact isOpen_of_next hfit

theorem exists_completion {pending : Pending} (h : pending.IsOpen) :
    ∃ rest c, rest ≠ [] ∧
      rest.foldlM Fit.advance (.unfinished pending) = some (.complete c) := by
  obtain ⟨owed, least, greatest, bits⟩ := pending
  induction owed generalizing least greatest bits with
  | zero => exact absurd h.owed (Nat.lt_irrefl 0)
  | succ owed ih =>
      have hbounds : 0x80 ≤ least ∧ least ≤ greatest ∧ greatest ≤ 0xbf :=
        ⟨h.least, h.range, h.greatest⟩
      have hbyte : (UInt8.ofNat least).toNat = least := by
        rw [UInt8.toNat_ofNat']
        omega
      have hrange : least ≤ (UInt8.ofNat least).toNat ∧ (UInt8.ofNat least).toNat ≤ greatest := by
        omega
      cases owed with
      | zero => exact ⟨[_], _, nofun, foldlM_last.mpr ⟨_, rfl, hrange, rfl⟩⟩
      | succ owed =>
          obtain ⟨rest, c, -, hrest⟩ := ih 0x80 0xbf _ ⟨by simp, by simp, by simp, by simp⟩
          exact ⟨_ :: rest, c, nofun, foldlM_inner.mpr ⟨_, rest, rfl, hrange, hrest⟩⟩

theorem isUnfinished_iff {part : List UInt8} :
    IsUnfinished part ↔ ∃ pending, reach part = some (.unfinished pending) := by
  constructor
  · rintro ⟨hpart, c, ⟨rest, hrest⟩, hne⟩
    have hwhole := reach_utf8EncodeChar c
    rw [← hrest, reach_append hpart, Option.bind_eq_some_iff] at hwhole
    obtain ⟨fit, hfit, hcomplete⟩ := hwhole
    cases fit with
    | complete d =>
        obtain ⟨rfl, -⟩ := foldlM_complete.mp hcomplete
        exact absurd ((List.append_nil part).symm.trans hrest) hne
    | unfinished pending => exact ⟨pending, hfit⟩
  · rintro ⟨pending, hpending⟩
    have hpart : part ≠ [] := by
      rintro rfl
      exact absurd hpending nofun
    obtain ⟨rest, c, hrest, hcomplete⟩ := exists_completion (isOpen_of_reach hpending)
    have hwhole : part ++ rest = utf8EncodeChar c := by
      apply eq_utf8EncodeChar_of_reach
      rw [reach_append hpart, hpending]
      exact hcomplete
    refine ⟨hpart, c, ⟨rest, hwhole⟩, fun heq => hrest ?_⟩
    exact List.append_right_eq_self.mp (hwhole.trans heq.symm)

/-- Bytes fit as long as they are the start of a character. -/
theorem reach_eq_none_iff {part : List UInt8} (hpart : part ≠ []) :
    reach part = none ↔ ∀ c, ¬ part <+: utf8EncodeChar c := by
  constructor
  · rintro hnone c ⟨rest, hrest⟩
    have hwhole := reach_utf8EncodeChar c
    rw [← hrest, reach_append hpart, hnone] at hwhole
    exact absurd hwhole nofun
  · intro hall
    cases hfit : reach part with
    | none => rfl
    | some fit =>
        cases fit with
        | complete c =>
            have hwhole := eq_utf8EncodeChar_of_reach hfit
            exact absurd (hwhole ▸ List.prefix_refl part) (hall c)
        | unfinished pending =>
            obtain ⟨-, c, hprefix, -⟩ := isUnfinished_iff.mpr ⟨pending, hfit⟩
            exact absurd hprefix (hall c)

/-! ## The decoder -/

/-- What the decoder gives after bytes that fit. -/
def Fit.output : Fit → List Char × Decoder
  | .complete c => ([c], none)
  | .unfinished pending => ([], some pending)

theorem decodeFirst_of_fit {byte : UInt8} {fit : Fit} (h : first byte.toNat = some fit) :
    decodeFirst byte = fit.output := by
  rw [decodeFirst, h]
  cases fit <;> rfl

theorem decodeByte_of_fit {pending : Pending} {byte : UInt8} {fit : Fit}
    (h : next pending byte.toNat = some fit) : decodeByte (some pending) byte = fit.output := by
  simp only [decodeByte, h]
  cases fit <;> rfl

theorem decodeChunk_singleton (decoder : Decoder) (byte : UInt8) :
    decodeChunk decoder [byte] = decodeByte decoder byte := by
  simp only [decodeChunk, List.append_nil]

theorem decodeChunk_of_reach {part : List UInt8} {fit : Fit} (h : reach part = some fit) :
    decodeChunk none part = fit.output := by
  induction part using List.reverseRecOn generalizing fit with
  | nil => exact absurd h nofun
  | append_singleton part byte ih =>
      rw [decodeChunk_append, decodeChunk_singleton]
      by_cases hpart : part = []
      · subst hpart
        exact decodeFirst_of_fit ((reach_singleton byte).symm.trans h)
      · rw [reach_concat hpart, Option.bind_eq_some_iff] at h
        obtain ⟨before, hbefore, hfit⟩ := h
        rw [ih hbefore]
        cases before with
        | complete c => exact absurd hfit nofun
        | unfinished pending =>
            show ([] ++ (decodeByte (some pending) byte).1, (decodeByte (some pending) byte).2) = _
            rw [decodeByte_of_fit hfit]
            rfl

/-- A byte that does not fit is read again after the damaged part. -/
theorem decodeChunk_of_misfit {pending : Pending} {byte : UInt8}
    (h : next pending byte.toNat = none) (rest : List UInt8) :
    decodeChunk (some pending) (byte :: rest) =
      (replacement :: (decodeChunk none (byte :: rest)).1,
        (decodeChunk none (byte :: rest)).2) := by
  simp only [decodeChunk, decodeByte, h, List.cons_append]

/-- A decoder inside a character has read the start of one. -/
theorem exists_part_of_pending {bytes : List UInt8} {pending : Pending}
    (h : (decodeChunk none bytes).2 = some pending) :
    ∃ part, part <:+ bytes ∧ reach part = some (.unfinished pending) := by
  induction bytes using List.reverseRecOn generalizing pending with
  | nil => exact absurd h nofun
  | append_singleton bytes byte ih =>
      rw [decodeChunk_append, decodeChunk_singleton] at h
      dsimp only at h
      have hfirst : (decodeFirst byte).2 = some pending →
          ∃ part, part <:+ bytes ++ [byte] ∧ reach part = some (.unfinished pending) := by
        intro hbyte
        refine ⟨[byte], List.suffix_append bytes [byte], (reach_singleton byte).trans ?_⟩
        cases hfit : first byte.toNat with
        | none => simp [decodeFirst, hfit] at hbyte
        | some fit =>
            rw [decodeFirst_of_fit hfit] at hbyte
            cases fit with
            | complete c => exact absurd hbyte nofun
            | unfinished reached => rw [Option.some.inj hbyte]
      cases hdecoder : (decodeChunk none bytes).2 with
      | none =>
          rw [hdecoder] at h
          exact hfirst h
      | some before =>
          rw [hdecoder] at h
          cases hfit : next before byte.toNat with
          | none =>
              simp only [decodeByte, hfit] at h
              exact hfirst h
          | some fit =>
              rw [decodeByte_of_fit hfit] at h
              cases fit with
              | complete c => exact absurd h nofun
              | unfinished reached =>
                  obtain rfl : reached = pending := Option.some.inj h
                  obtain ⟨part, ⟨start, hstart⟩, hreach⟩ := ih hdecoder
                  have hpart : part ≠ [] := by
                    rintro rfl
                    exact absurd hreach nofun
                  refine ⟨part ++ [byte], ⟨start, by rw [← List.append_assoc, hstart]⟩, ?_⟩
                  rw [reach_concat hpart, hreach]
                  exact hfit

/-! ## Whole texts -/

/-- What stands for the start of a character at the end of a text. -/
def leftover (decoder : Decoder) : List Char :=
  if decoder.isSome then [replacement] else []

/-- The rest of a text. -/
def decodeRest (decoder : Decoder) (bytes : List UInt8) : List Char :=
  (decodeChunk decoder bytes).1 ++ leftover (decodeChunk decoder bytes).2

theorem decodeLossy_eq (bytes : List UInt8) :
    decodeLossy bytes = String.ofList (decodeRest none bytes) := by
  unfold decodeLossy decodeRest leftover
  dsimp only
  split
  · rfl
  · rw [List.append_nil]

theorem decodeRest_append (decoder : Decoder) (bytes rest : List UInt8) :
    decodeRest decoder (bytes ++ rest) =
      (decodeChunk decoder bytes).1 ++ decodeRest (decodeChunk decoder bytes).2 rest := by
  rw [decodeRest, decodeChunk_append, decodeRest, List.append_assoc]

theorem decodeRest_of_misfit {pending : Pending} {rest : List UInt8}
    (h : ∀ byte ∈ rest.head?, next pending byte.toNat = none) :
    decodeRest (some pending) rest = replacement :: decodeRest none rest := by
  cases rest with
  | nil => rfl
  | cons byte rest =>
      rw [decodeRest, decodeChunk_of_misfit (h byte rfl)]
      rfl

theorem decodeRest_of_decoding {bytes : List UInt8} {text : List Char}
    (h : Decoding bytes text) : decodeRest none bytes = text := by
  induction h with
  | nil => rfl
  | char c _ ih =>
      rw [decodeRest_append, decodeChunk_of_reach (reach_utf8EncodeChar c)]
      exact congrArg (c :: ·) ih
  | @stray byte rest text hstray _ ih =>
      have hnone : first byte.toNat = none := by
        rw [← reach_singleton]
        exact (reach_eq_none_iff (List.cons_ne_nil byte [])).mpr hstray
      rw [← List.singleton_append, decodeRest_append, decodeChunk_singleton, decodeByte,
        decodeFirst, hnone]
      exact congrArg (replacement :: ·) ih
  | @damaged part rest text hpart hmisfit _ ih =>
      obtain ⟨pending, hpending⟩ := isUnfinished_iff.mp hpart
      have hnone : ∀ byte ∈ rest.head?, next pending byte.toNat = none := by
        intro byte hbyte
        have hreach := (reach_eq_none_iff (by simp)).mpr (hmisfit byte hbyte)
        rwa [reach_concat hpart.1, hpending] at hreach
      rw [decodeRest_append, decodeChunk_of_reach hpending]
      exact (decodeRest_of_misfit hnone).trans (congrArg (replacement :: ·) ih)

/-- Decoding with replacement gives the text that bytes stand for. -/
theorem decoding_iff {bytes : List UInt8} {text : List Char} :
    Decoding bytes text ↔ decodeLossy bytes = String.ofList text := by
  rw [decodeLossy_eq, String.ofList_inj]
  constructor
  · exact decodeRest_of_decoding
  · rintro rfl
    obtain ⟨text, htext⟩ := exists_decoding bytes
    exact (decodeRest_of_decoding htext).symm ▸ htext

/-- Two bytes of three, a letter, a byte that starts nothing, and a cut end. -/
example : decodeLossy [0xe2, 0x82, 0x62, 0xc0, 0xf0, 0x9f] = "\ufffdb\ufffd\ufffd" := by
  decide +kernel

/-- A decoder that may still be given more bytes has read all but an unfinished end. -/
theorem decodeChunk_of_clipped {bytes whole : List UInt8} {text : List Char}
    (hclip : Clipped bytes whole) (hdecode : Decoding whole text) :
    (decodeChunk none bytes).1 = text := by
  rw [← decodeRest_of_decoding hdecode]
  cases hclip with
  | @cut _ part hpart =>
      obtain ⟨pending, hpending⟩ := isUnfinished_iff.mp hpart
      rw [decodeChunk_append, decodeRest]
      dsimp only
      cases hdecoder : (decodeChunk none whole).2 with
      | none => rw [decodeChunk_of_reach hpending]; rfl
      | some before =>
          -- a byte that goes on with a character starts none
          obtain ⟨start, -, hstart⟩ := exists_part_of_pending hdecoder
          have hopen := isOpen_of_reach hstart
          obtain ⟨byte, rest, rfl⟩ := List.exists_cons_of_ne_nil hpart.1
          have hnone : next before byte.toNat = none := by
            by_contra hsome
            obtain ⟨fit, hfit⟩ := Option.ne_none_iff_exists'.mp hsome
            obtain ⟨hrange, -⟩ := next_eq_some_iff.mp hfit
            have hleast := hopen.least
            have hgreatest := hopen.greatest
            have hfirst : first byte.toNat = none := by
              rw [first_eq, if_neg (by omega), if_neg (by omega), if_neg (by omega),
                if_neg (by omega)]
            rw [reach, hfirst] at hpending
            exact absurd hpending nofun
          rw [decodeChunk_of_misfit hnone, decodeChunk_of_reach hpending]
          rfl
  | same hnone =>
      cases hdecoder : (decodeChunk none bytes).2 with
      | none => rw [decodeRest, hdecoder]; exact (List.append_nil _).symm
      | some pending =>
          obtain ⟨part, hsuffix, hpart⟩ := exists_part_of_pending hdecoder
          exact absurd hsuffix (hnone part (isUnfinished_iff.mpr ⟨pending, hpart⟩))

end Montage.Text.Utf8
