/-
  Montage.Proofs.File.Names

  The names in the text of a path.  A slash separates names, and a name that is nothing but
  a name stands for itself.
-/
import Mathlib.Data.List.Basic
import Montage.File.Path

namespace Montage.File.Path

/-! ## Cutting -/

theorem cut_append_slash (first rest : List Char) :
    cut (first ++ '/' :: rest) = cut first ++ cut rest :=
  List.splitOnP_append_cons first rest rfl

theorem cut_of_no_slash {text : List Char} (h : '/' ∉ text) : cut text = [text] :=
  List.splitOnP_eq_singleton fun _ hc => beq_false_of_ne fun heq => h (heq ▸ hc)

theorem no_slash_of_mem_cut {text piece : List Char} (h : piece ∈ cut text) : '/' ∉ piece := by
  induction text generalizing piece with
  | nil =>
      rw [cut, List.splitOnP_nil, List.mem_singleton] at h
      rw [h]
      exact List.not_mem_nil
  | cons c rest ih =>
      rw [cut, List.splitOnP_cons_eq_if_modifyHead] at h
      split at h
      · rcases List.mem_cons.mp h with rfl | hrest
        · exact List.not_mem_nil
        · exact ih hrest
      next hslash =>
        -- the character is put in front of the first piece of the rest
        obtain ⟨first, more, hcut⟩ := List.exists_cons_of_ne_nil
          (List.splitOnP_ne_nil (· == '/') rest)
        rw [hcut, List.modifyHead_cons] at h
        rcases List.mem_cons.mp h with rfl | hmore
        · have hfirst : '/' ∉ first := ih (by rw [cut, hcut]; exact List.mem_cons_self)
          rw [List.mem_cons, not_or]
          refine ⟨fun heq => hslash ?_, hfirst⟩
          rw [← heq]
          rfl
        · exact ih (by rw [cut, hcut]; exact List.mem_cons_of_mem _ hmore)

/-! ## Names of a text -/

theorem toList_of_mem_names {text name : String} (h : name ∈ (ofText text).names) :
    '/' ∉ name.toList := by
  obtain ⟨piece, hpiece, rfl⟩ := List.mem_map.mp h
  rw [String.toList_ofList]
  exact no_slash_of_mem_cut (List.mem_filter.mp hpiece).1

theorem names_append_slash (first rest : String) :
    (ofText (first ++ "/" ++ rest)).names = (ofText first).names ++ (ofText rest).names := by
  have hchars : (first ++ "/" ++ rest).toList = first.toList ++ '/' :: rest.toList := by
    simp
  simp only [ofText, hchars, cut_append_slash, List.filter_append, List.map_append]

/-! ## Plain names -/

/-- Whether a text is a name and nothing else. -/
structure IsPlainName (name : String) : Prop where
  noSlash : '/' ∉ name.toList
  isName : isName name.toList = true
  notUp : name ≠ ".."

/-- A hyphen makes a name differ from those that say nothing. -/
theorem IsPlainName.of_hyphen {name : String} (hslash : '/' ∉ name.toList)
    (hhyphen : '-' ∈ name.toList) : IsPlainName name := by
  refine ⟨hslash, ?_, ?_⟩
  · rw [Path.isName, Bool.and_eq_true, decide_eq_true_eq, decide_eq_true_eq]
    refine ⟨fun hempty => ?_, fun hdot => ?_⟩
    · rw [hempty] at hhyphen
      cases hhyphen
    · rw [hdot] at hhyphen
      exact absurd hhyphen (by decide)
  · intro hup
    rw [hup] at hhyphen
    exact absurd hhyphen (by decide)

theorem IsPlainName.ne_empty {name : String} (h : IsPlainName name) : name ≠ "" := by
  rintro rfl
  cases h.isName

theorem ofText_of_plain {name : String} (h : IsPlainName name) :
    ofText name = ⟨.relative, [name]⟩ := by
  have hroot : rootOf name.toList = .relative := by
    unfold rootOf
    split
    next hchars => exact absurd (hchars ▸ List.mem_cons_self) h.noSlash
    next hchars => exact absurd (hchars ▸ List.mem_cons_self) h.noSlash
    next hchars => exact absurd (hchars ▸ List.mem_cons_self) h.noSlash
    next => rfl
  rw [ofText, hroot, cut_of_no_slash h.noSlash, List.filter_cons, if_pos h.isName,
    List.filter_nil, List.map_singleton, String.ofList_toList]

theorem child_of_plain {name : String} (h : IsPlainName name) (base : Path) :
    base.child name = { base with names := base.names ++ [name] } := by
  rw [child, ofText_of_plain h]
  rfl

/-! ## Texts of paths -/

theorem intercalate_ne_empty {names : List String} (h : ∃ name ∈ names, name ≠ "") :
    "/".intercalate names ≠ "" := by
  match names with
  | [] => simp at h
  | [name] => simpa using h
  | first :: second :: rest =>
      rw [String.intercalate_cons_cons]
      simp

/-- A path has a text if it starts at a root or has a name that is not empty. -/
theorem text_ne_empty {path : Path}
    (h : path.root ≠ .relative ∨ ∃ name ∈ path.names, name ≠ "") : path.text ≠ "" := by
  unfold text
  split
  · decide
  · rcases h with hroot | hname
    · cases hcase : path.root with
      | relative => exact absurd hcase hroot
      | absolute => simp [rootText]
      | network => simp [rootText]
    · have hne := intercalate_ne_empty hname
      simp [hne]

/-- Whatever is put below a path that has a name, the result has a text. -/
theorem text_child_ne_empty {base : Path} (h : ∃ name ∈ base.names, name ≠ "")
    (name : String) : (base.child name).text ≠ "" := by
  apply text_ne_empty
  unfold child join
  split
  · obtain ⟨other, hmem, hne⟩ := h
    exact .inr ⟨other, List.mem_append_left _ hmem, hne⟩
  · rename_i hroot
    exact .inl hroot

/-- The names of a key stand at the end of its path, wherever the key leads. -/
theorem exists_names_child (base : Path) (text : String) :
    ∃ init, (base.child text).names = init ++ (ofText text).names := by
  unfold child join
  split
  · exact ⟨base.names, rfl⟩
  · exact ⟨[], rfl⟩

end Montage.File.Path
