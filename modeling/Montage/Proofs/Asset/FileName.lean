/-
  Montage.Proofs.Asset.FileName

  The names of asset files.  Whatever a media id, a locator and a media type are, the name is
  one name without a slash, so an asset is written into the directory it is meant for.

  A name is a stem and an extension.  The stem ends in a hyphen and eight digits, and no
  extension can be taken for these: it follows a dot, or it is empty, and it never has as many
  hyphens and digits.  So files of one name have one stem.
-/
import Mathlib.Data.List.TakeWhile
import Montage.Asset.Fetch
import Montage.Proofs.Fault
import Montage.Proofs.File.Names
import Montage.Proofs.File.Places
import Montage.Proofs.Text.Lowercase

namespace Montage.Asset

open Montage.File Montage.Text

/-! ## Stems -/

theorem no_slash_sanitize (mediaId : String) : '/' ∉ (sanitize mediaId).toList := by
  unfold sanitize
  split
  · decide
  · rw [String.toList_ofList, List.mem_map]
    rintro ⟨c, -, hc⟩
    split at hc
    next hsafe =>
      subst hc
      revert hsafe
      decide
    next => cases hc

theorem exists_of_mem_fingerprint {mediaId : String} {c : Char}
    (h : c ∈ (fingerprint mediaId).toList) : ∃ value < 16, c = hexDigit false value := by
  rw [fingerprint, String.toList_ofList] at h
  have hdigits := List.mem_of_mem_take h
  rw [Digest.hex, hexOfBytes, String.toList_ofList, List.mem_flatMap] at hdigits
  obtain ⟨byte, -, hbyte⟩ := hdigits
  have hlt := byte.toNat_lt
  simp only [hexByte, List.mem_cons, List.not_mem_nil, or_false] at hbyte
  rcases hbyte with hhigh | hlow
  · exact ⟨_, by omega, hhigh⟩
  · exact ⟨_, by omega, hlow⟩

theorem no_slash_fingerprint (mediaId : String) : '/' ∉ (fingerprint mediaId).toList := by
  intro hmem
  have hall : ∀ value < 16, hexDigit false value ≠ '/' := by decide
  obtain ⟨value, hvalue, hslash⟩ := exists_of_mem_fingerprint hmem
  exact hall value hvalue hslash.symm

theorem no_slash_of_fileStem {mediaId stem : String} (h : fileStem mediaId = .ok stem) :
    '/' ∉ stem.toList ∧ '-' ∈ stem.toList := by
  unfold fileStem at h
  split at h
  · cases h
  · cases h
    have hsanitized := no_slash_sanitize mediaId
    have hprint := no_slash_fingerprint mediaId
    simp [hsanitized, hprint]

/-! ## Extensions -/

theorem no_slash_suffixOf {name : String} (h : '/' ∉ name.toList) :
    '/' ∉ (Path.suffixOf name).toList := by
  unfold Path.suffixOf
  dsimp only
  split
  · have hafter : '/' ∉ (name.toList.reverse.takeWhile (· != '.')).reverse := by
      rw [List.mem_reverse]
      intro hmem
      exact h (List.mem_reverse.mp ((List.takeWhile_sublist _).subset hmem))
    simpa using hafter
  · decide

theorem no_slash_suffix (text : String) : '/' ∉ (Path.ofText text).suffix.toList := by
  refine no_slash_suffixOf ?_
  unfold Path.name
  cases hlast : (Path.ofText text).names.getLast? with
  | none => decide
  | some name => exact Path.toList_of_mem_names (List.mem_of_getLast? hlast)

theorem no_slash_extensions : ∀ entry ∈ extensions, '/' ∉ entry.2.toList := by
  decide +kernel

theorem no_slash_typeExtension (contentType : Option String) :
    '/' ∉ (typeExtension contentType).toList := by
  unfold typeExtension
  split
  · decide
  · rename_i text
    cases hfound : extensionOf? (lower (bareType text)) with
    | none => decide
    | some extension =>
        obtain ⟨before, after, hentries, -⟩ := List.lookup_eq_some_iff.mp hfound
        have hmem : (lower (bareType text), extension) ∈ extensions := by
          rw [hentries]
          simp
        exact no_slash_extensions _ hmem

theorem no_slash_guessExtension (path : String) (contentType : Option String) :
    '/' ∉ (guessExtension path contentType).toList := by
  unfold guessExtension
  dsimp only
  split
  · rw [lowerWords, String.toList_ofList]
    exact fun hmem => no_slash_suffix path (eq_of_mem_lowerAfter (by decide) (by decide) hmem)
  · exact no_slash_typeExtension contentType

/-! ## Files -/

/-- A stem with an extension is a name and nothing else. -/
theorem isPlainName_append {stem extension : String}
    (hstem : '/' ∉ stem.toList ∧ '-' ∈ stem.toList) (hextension : '/' ∉ extension.toList) :
    Path.IsPlainName (stem ++ extension) := by
  refine .of_hyphen ?_ ?_
  · simp [hstem.1, hextension]
  · simp [hstem.2]

/-- Whether a file was made of the payload of an item, which was in its locator or was
    downloaded. -/
def Received.IsOf (item : Wanted) (file : Received) : Prop :=
  inlineFile item = .ok file ∨ ∃ path download, downloadedFile item path download = .ok file

/-- What the file of an item is called, and what is in it. -/
theorem Received.IsOf.cases {item : Wanted} {file : Received} (h : file.IsOf item) :
    ∃ stem path contentType, fileStem item.mediaId = .ok stem ∧
      file.name = stem ++ guessExtension path contentType ∧
      ((∃ uri, decodeDataUri item.locator = .ok uri ∧ file.bytes = uri.payload) ∨
        ∃ path contentType, downloadedFile item path (.response 200 contentType file.bytes) =
          .ok file) := by
  rcases h with hinline | ⟨path, download, hdownloaded⟩
  · unfold inlineFile at hinline
    split at hinline
    next uri huri =>
      obtain ⟨stem, hstem, hfile⟩ := exists_of_bind_eq_ok hinline
      cases hfile
      exact ⟨stem, _, _, hstem, rfl, .inl ⟨uri, huri, rfl⟩⟩
    next => cases hinline
  · have hwhole := hdownloaded
    unfold downloadedFile at hdownloaded
    split at hdownloaded
    · split at hdownloaded
      next status contentType body hstatus =>
        obtain ⟨stem, hstem, hfile⟩ := exists_of_bind_eq_ok hdownloaded
        cases hfile
        subst hstatus
        exact ⟨stem, _, _, hstem, rfl, .inr ⟨path, contentType, hwhole⟩⟩
      next => cases hdownloaded
    · cases hdownloaded
    · cases hdownloaded

/-- An asset is written under a name of its directory. -/
theorem Received.IsOf.isPlainName {item : Wanted} {file : Received} (h : file.IsOf item) :
    Path.IsPlainName file.name := by
  obtain ⟨stem, path, contentType, hstem, hname, -⟩ := h.cases
  rw [hname]
  exact isPlainName_append (no_slash_of_fileStem hstem) (no_slash_guessExtension _ _)

/-- Whether a file was made of the payload of a medium. -/
def Received.IsFetched (file : Received) : Prop :=
  ∃ item, inlineFile item = .ok file ∨
    ∃ path download, downloadedFile item path download = .ok file

theorem Received.IsFetched.isPlainName {file : Received} (h : file.IsFetched) :
    Path.IsPlainName file.name := by
  obtain ⟨item, hitem⟩ := h
  exact Received.IsOf.isPlainName hitem

/-! ## Deliveries -/

/-- A file is written to its name in the directory. -/
theorem deliver_ok (directory : Path) (file : Received) :
    deliver directory (.ok file) = (do
      Call.write (directory.child file.name) file.bytes
      return (directory.child file.name).text) :=
  rfl

theorem keepsTo_deliver {change : Option Entry → Option Entry → Prop}
    [IsPreorder (Option Entry) change] {directory : Path} {place : Place}
    {received : Except Fault Received}
    (h : ∀ file, received = .ok file →
      Place.reach [] (directory.child file.name).names = place →
        ∀ before, before ≠ some .directory → change before (some (.file file.bytes))) :
    Call.KeepsTo change place (deliver directory received) := by
  cases received with
  | error fault => exact (Call.looks_throw fault).keepsTo
  | ok file =>
      rw [deliver_ok]
      exact Call.keepsTo_bind (Call.keepsTo_write (h file rfl)) fun _ =>
        (Call.looks_pure _).keepsTo

/-! ## Digits of a digest -/

theorem length_bigEndian (width value : Nat) : (Digest.bigEndian width value).length = width := by
  simp [Digest.bigEndian]

theorem length_digest (message : List UInt8) : (Digest.digest message).length = 20 := by
  simp [Digest.digest, length_bigEndian]

theorem length_hex (message : List UInt8) : (Digest.hex message).toList.length = 40 := by
  have hbytes : ∀ bytes : List UInt8,
      (bytes.flatMap (hexByte false)).length = 2 * bytes.length := by
    intro bytes
    induction bytes with
    | nil => rfl
    | cons byte rest ih =>
        rw [List.flatMap_cons, List.length_append, ih, List.length_cons]
        simp only [hexByte, List.length_cons, List.length_nil]
        omega
  rw [Digest.hex, hexOfBytes, String.toList_ofList, hbytes, length_digest]

/-- Whether a character is a hyphen or a digit of a digest. -/
def isMark (c : Char) : Bool :=
  "-0123456789abcdef".toList.contains c

theorem isMark_of_mem_fingerprint {mediaId : String} {c : Char}
    (h : c ∈ (fingerprint mediaId).toList) : isMark c = true := by
  have hall : ∀ value < 16, isMark (hexDigit false value) = true := by decide
  obtain ⟨value, hvalue, rfl⟩ := exists_of_mem_fingerprint h
  exact hall value hvalue

theorem isSafe_of_isMark {c : Char} (h : isMark c = true) : isSafe c = true := by
  have hall : "-0123456789abcdef".toList.all isSafe = true := by decide
  exact List.all_eq_true.mp hall c (List.contains_iff_mem.mp h)

theorem length_fingerprint (mediaId : String) : (fingerprint mediaId).toList.length = 8 := by
  rw [fingerprint, String.toList_ofList, List.length_take, length_hex]
  rfl

/-! ## The parts of a stem -/

theorem isSafe_of_mem_sanitize {mediaId : String} {c : Char}
    (h : c ∈ (sanitize mediaId).toList) : isSafe c = true := by
  unfold sanitize at h
  split at h
  · have hall : "asset".toList.all isSafe = true := by decide
    exact List.all_eq_true.mp hall c h
  · rw [String.toList_ofList] at h
    obtain ⟨d, -, rfl⟩ := List.mem_map.mp h
    split
    next hsafe => exact hsafe
    next => decide

theorem fileStem_eq_ok {mediaId stem : String} (h : fileStem mediaId = .ok stem) :
    stem = sanitize mediaId ++ "-" ++ fingerprint mediaId := by
  unfold fileStem at h
  split at h
  · cases h
  · exact (Except.ok.inj h).symm

/-- A stem is not empty, and it keeps to letters and digits of ASCII and three signs. -/
theorem isSafe_of_mem_fileStem {mediaId stem : String} (h : fileStem mediaId = .ok stem) {c : Char}
    (hc : c ∈ stem.toList) : isSafe c = true := by
  rw [fileStem_eq_ok h, String.toList_append, String.toList_append, List.append_assoc,
    List.mem_append, List.mem_append] at hc
  rcases hc with hsanitized | hhyphen | hprint
  · exact isSafe_of_mem_sanitize hsanitized
  · obtain rfl : c = '-' := List.mem_singleton.mp hhyphen
    decide
  · exact isSafe_of_isMark (isMark_of_mem_fingerprint hprint)

/-! ## Extensions and fingerprints -/

/-- What the extension of an asset file may be: nothing, or a dot and what holds no other dot and
    fewer hyphens and digits than end a stem. -/
inductive IsExtension : List Char → Prop
  | none : IsExtension []
  | dotted {letters : List Char} (hdot : '.' ∉ letters) (hfew : letters.countP isMark < 9) :
      IsExtension ('.' :: letters)

/-- Lower case makes at most one hyphen or digit of a character. -/
theorem countP_lowerChar_le (c : Char) : (lowerChar c).countP isMark ≤ 1 := by
  unfold lowerChar
  split
  · exact List.countP_le_length
  · split
    · decide
    · dsimp only
      split
      · exact List.countP_le_length
      · exact List.countP_le_length

theorem countP_lowerAfter_le (before text : List Char) :
    (lowerAfter before text).countP isMark ≤ text.length := by
  induction text generalizing before with
  | nil => exact Nat.le_refl 0
  | cons c rest ih =>
      have hrest := ih (c :: before)
      have hhere := countP_lowerChar_le c
      rw [lowerAfter, List.countP_append, List.length_cons]
      split
      next =>
        have hsigma : [finalSigma].countP isMark ≤ 1 := List.countP_le_length
        omega
      next => omega

theorem exists_of_suffixOf {name : String} (h : Path.suffixOf name ≠ "") :
    ∃ letters, '.' ∉ letters ∧ (Path.suffixOf name).toList = '.' :: letters := by
  unfold Path.suffixOf at h ⊢
  dsimp only at h ⊢
  split
  next =>
    refine ⟨(name.toList.reverse.takeWhile (· != '.')).reverse, fun hmem => ?_, ?_⟩
    · have hdot := List.mem_takeWhile_imp (List.mem_reverse.mp hmem)
      exact absurd hdot (by decide)
    · simp
  next hnone => exact absurd (if_neg hnone) h

/-- A suffix that is short enough is an extension, in lower case as well. -/
theorem isExtension_lowerWords {name : String} (hsuffix : Path.suffixOf name ≠ "")
    (hshort : (Path.suffixOf name).length ≤ maxSuffix) :
    IsExtension (lowerWords (Path.suffixOf name)).toList := by
  obtain ⟨letters, hdot, hletters⟩ := exists_of_suffixOf hsuffix
  have hlower : (lowerWords (Path.suffixOf name)).toList = '.' :: lowerAfter ['.'] letters := by
    rw [lowerWords, String.toList_ofList, hletters]
    rfl
  rw [hlower]
  refine .dotted (fun hmem => hdot (eq_of_mem_lowerAfter (by decide) (by decide) hmem)) ?_
  have hfew := countP_lowerAfter_le ['.'] letters
  have hlength : (Path.suffixOf name).length = letters.length + 1 := by
    rw [← String.length_toList, hletters, List.length_cons]
  have hmost : maxSuffix = 6 := rfl
  omega

theorem isExtension_of_mem_extensions :
    ∀ entry ∈ extensions, IsExtension entry.2.toList := by
  have hall : ∀ entry ∈ extensions, entry.2.toList = '.' :: entry.2.toList.tail ∧
      '.' ∉ entry.2.toList.tail ∧ entry.2.toList.tail.countP isMark < 9 := by
    decide +kernel
  intro entry hentry
  obtain ⟨hdotted, hdot, hfew⟩ := hall entry hentry
  exact hdotted ▸ .dotted hdot hfew

theorem isExtension_typeExtension (contentType : Option String) :
    IsExtension (typeExtension contentType).toList := by
  unfold typeExtension
  split
  next => exact .none
  next text =>
    cases hfound : extensionOf? (lower (bareType text)) with
    | none => exact .none
    | some extension =>
        obtain ⟨before, after, hentries, -⟩ := List.lookup_eq_some_iff.mp hfound
        have hmem : (lower (bareType text), extension) ∈ extensions := by
          rw [hentries]
          simp
        exact isExtension_of_mem_extensions _ hmem

theorem isExtension_guessExtension (path : String) (contentType : Option String) :
    IsExtension (guessExtension path contentType).toList := by
  unfold guessExtension
  dsimp only
  split
  next hsuffix => exact isExtension_lowerWords hsuffix.1 hsuffix.2
  next => exact isExtension_typeExtension contentType

/-! ## Names that are the same -/

/-- The last dot of a text cuts it in one way. -/
theorem eq_of_last_dot {before before' after after' : List Char} (hafter : '.' ∉ after)
    (hafter' : '.' ∉ after') (h : before ++ '.' :: after = before' ++ '.' :: after') :
    before = before' := by
  rcases List.append_eq_append_iff.mp h with ⟨between, rfl, hrest⟩ | ⟨between, rfl, hrest⟩
  · cases between with
    | nil => exact (List.append_nil before).symm
    | cons c more =>
        -- the second dot would be in what follows the first one
        rw [List.cons_append, List.cons.injEq] at hrest
        exact absurd (hrest.2 ▸ List.mem_append_right _ List.mem_cons_self) hafter
  · cases between with
    | nil => exact List.append_nil before'
    | cons c more =>
        rw [List.cons_append, List.cons.injEq] at hrest
        exact absurd (hrest.2 ▸ List.mem_append_right _ List.mem_cons_self) hafter'

/-- No extension can be taken for the end of a stem. -/
theorem stem_ne_dotted {first second print letters : List Char} (hprint : print.length = 8)
    (hmarks : ∀ c ∈ print, isMark c = true) (hfew : letters.countP isMark < 9) :
    first ++ '-' :: print ≠ second ++ '.' :: letters := by
  have hmarked : ∀ c ∈ '-' :: print, isMark c = true :=
    List.forall_mem_cons.mpr ⟨by decide, hmarks⟩
  intro h
  rcases List.append_eq_append_iff.mp h with ⟨between, rfl, hrest⟩ | ⟨between, rfl, hrest⟩
  · have hdot : '.' ∈ '-' :: print := hrest ▸ List.mem_append_right _ List.mem_cons_self
    exact absurd (hmarked '.' hdot) (by decide)
  · cases between with
    | nil =>
        rw [List.nil_append, List.cons.injEq] at hrest
        exact absurd hrest.1 (by decide)
    | cons c more =>
        -- the dot is inside of the stem, so all nine marks would have to follow it
        rw [List.cons_append, List.cons.injEq] at hrest
        have hall : ('-' :: print).countP isMark = 9 := by
          rw [List.countP_eq_length.mpr hmarked, List.length_cons, hprint]
        rw [hrest.2, List.countP_append, hall] at hfew
        omega

/-- Stems with extensions are the same only if the stems are. -/
theorem eq_of_stem_append {first second print print' extension extension' : List Char}
    (hprint : print.length = 8) (hprint' : print'.length = 8)
    (hmarks : ∀ c ∈ print, isMark c = true) (hmarks' : ∀ c ∈ print', isMark c = true)
    (hextension : IsExtension extension) (hextension' : IsExtension extension')
    (h : first ++ '-' :: print ++ extension = second ++ '-' :: print' ++ extension') :
    first = second ∧ print = print' := by
  have hstem : first ++ '-' :: print = second ++ '-' :: print' := by
    cases hextension with
    | none =>
        rw [List.append_nil] at h
        cases hextension' with
        | none => rwa [List.append_nil] at h
        | dotted hdot hfew => exact absurd h (stem_ne_dotted hprint hmarks hfew)
    | dotted hdot hfew =>
        cases hextension' with
        | none =>
            rw [List.append_nil] at h
            exact absurd h.symm (stem_ne_dotted hprint' hmarks' hfew)
        | dotted hdot' hfew' => exact eq_of_last_dot hdot hdot' h
  obtain ⟨hfirst, hprints⟩ := List.append_inj' hstem (by simp [hprint, hprint'])
  exact ⟨hfirst, (List.cons.inj hprints).2⟩

theorem toList_fileStem_append {mediaId stem : String} (h : fileStem mediaId = .ok stem)
    (extension : String) : (stem ++ extension).toList =
      (sanitize mediaId).toList ++ '-' :: (fingerprint mediaId).toList ++ extension.toList := by
  rw [fileStem_eq_ok h]
  simp

/-- Files of one name have one stem. -/
theorem Received.IsOf.eq_of_name_eq {item other : Wanted} {file file' : Received}
    (h : file.IsOf item) (h' : file'.IsOf other) (hname : file.name = file'.name) :
    sanitize item.mediaId = sanitize other.mediaId ∧
      fingerprint item.mediaId = fingerprint other.mediaId := by
  obtain ⟨stem, path, contentType, hstem, hfile, -⟩ := h.cases
  obtain ⟨stem', path', contentType', hstem', hfile', -⟩ := h'.cases
  rw [hfile, hfile'] at hname
  have hchars := congrArg String.toList hname
  rw [toList_fileStem_append hstem, toList_fileStem_append hstem'] at hchars
  obtain ⟨hsanitized, hprint⟩ := eq_of_stem_append (length_fingerprint item.mediaId)
    (length_fingerprint other.mediaId) (fun _ => isMark_of_mem_fingerprint)
    (fun _ => isMark_of_mem_fingerprint) (isExtension_guessExtension path contentType)
    (isExtension_guessExtension path' contentType') hchars
  exact ⟨String.toList_inj.mp hsanitized, String.toList_inj.mp hprint⟩

end Montage.Asset
