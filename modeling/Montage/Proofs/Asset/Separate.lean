/-
  Montage.Proofs.Asset.Separate

  Asset files stay apart.  An asset is written under a name of its directory and nowhere else,
  so assets with different fingerprints do not touch each other's files: once all have come,
  each place that is returned holds the payload of its own asset.
-/
import Mathlib.Data.List.Nodup
import Montage.Proofs.Asset.Completion
import Montage.Proofs.Asset.FileName
import Montage.Proofs.Compile.Success
import Montage.Proofs.File.Places

namespace Montage.File.Path

/-! ## Paths in one directory -/

theorem exists_intercalate_concat (names : List String) :
    ∃ front : String, ∀ name, "/".intercalate (names ++ [name]) = front ++ name := by
  induction names with
  | nil => exact ⟨"", fun name => by rw [List.nil_append, String.intercalate_singleton]; simp⟩
  | cons first rest ih =>
      obtain ⟨front, hfront⟩ := ih
      refine ⟨first ++ "/" ++ front, fun name => ?_⟩
      obtain ⟨next, more, hmore⟩ := List.exists_cons_of_ne_nil
        (List.append_ne_nil_of_right_ne_nil rest (List.cons_ne_nil name []))
      rw [List.cons_append, hmore, String.intercalate_cons_cons, ← hmore, hfront]
      simp [String.append_assoc]

/-- Paths in one directory are the same in text only if their names are. -/
theorem text_child_injective {directory : Path} {name other : String} (hname : IsPlainName name)
    (hother : IsPlainName other)
    (h : (directory.child name).text = (directory.child other).text) : name = other := by
  have htext : ∀ last, text { directory with names := directory.names ++ [last] } =
      rootText directory.root ++ "/".intercalate (directory.names ++ [last]) :=
    fun last => if_neg fun hempty => List.append_ne_nil_of_right_ne_nil _ (by simp) hempty.2
  obtain ⟨front, hfront⟩ := exists_intercalate_concat directory.names
  rw [child_of_plain hname, child_of_plain hother, htext, htext, hfront, hfront,
    ← String.append_assoc, ← String.append_assoc] at h
  have hchars := congrArg String.toList h
  rw [String.toList_append, @String.toList_append (_ ++ front)] at hchars
  exact String.toList_inj.mp (List.append_cancel_left hchars)

end Montage.File.Path

namespace Montage.Asset

open Montage.File Montage.Timeline

variable {directory : Path} {received : Except Fault Received} {tree after : Tree}

/-! ## Writing one asset -/

theorem deliver_eq_ok {place : String}
    (h : (deliver directory received).run.run tree = (.ok place, after)) :
    ∃ file, received = .ok file ∧ place = (directory.child file.name).text ∧
      after.Holds (directory.child file.name) file.bytes := by
  cases received with
  | error fault => cases h
  | ok file =>
      rw [deliver_ok, Call.run_bind] at h
      split at h
      next written hwritten =>
        cases h
        exact ⟨file, rfl, rfl, Tree.holds_of_write hwritten⟩
      next => cases h

theorem reach_child {name : String} (h : Path.IsPlainName name) (directory : Path) :
    Place.reach [] (directory.child name).names = Place.reach [] directory.names ++ [name] := by
  rw [Path.child_of_plain h, Place.reach_concat _ _ h.notUp]

/-- A file stays as it is while another one is written into the directory. -/
theorem holds_after_deliver {name : String} {bytes : List UInt8} (hname : Path.IsPlainName name)
    (h : tree.Holds (directory.child name) bytes)
    (hother : ∀ file, received = .ok file → Path.IsPlainName file.name ∧ file.name ≠ name) :
    ((deliver directory received).run.run tree).2.Holds (directory.child name) bytes := by
  refine h.keep (fun passed _ => ?_) ?_
  · -- a directory is not written over
    have hdirectory : Call.KeepsTo Entry.directory.Stays passed (deliver directory received) :=
      keepsTo_deliver fun _ _ _ _ hbefore hsame => absurd hsame hbefore
    exact hdirectory tree
  · have hfile : Call.KeepsTo (Entry.file bytes).Stays
        (Place.reach [] (directory.child name).names) (deliver directory received) := by
      refine keepsTo_deliver fun file hreceived hreach => ?_
      obtain ⟨hplain, hne⟩ := hother file hreceived
      rw [reach_child hplain, reach_child hname] at hreach
      exact absurd (List.singleton_injective (List.append_cancel_left hreach)) hne
    exact hfile tree

end Montage.Asset

namespace Montage.Web

open Montage.Asset Montage.File Montage.Number Montage.Timeline

/-! ## All assets of a document -/

theorem inlineFile_of_route {item : Wanted} {received : Received}
    (h : route item = .ok (.inline received)) : inlineFile item = .ok received := by
  obtain ⟨locator, -, hscheme⟩ := exists_of_bind_eq_ok h
  split at hscheme
  next => cases hscheme
  next =>
    obtain ⟨file, hfile, hend⟩ := exists_of_bind_eq_ok hscheme
    cases hend
    exact hfile
  next => cases hscheme
  next => cases hscheme
  next => cases hscheme

/-- Whether a transfer comes to a file of its own item, if it comes to one. -/
def Transfer.IsOwn (transfer : Transfer) : Prop :=
  ∀ file, transfer.received = .ok file → file.IsOf transfer.item

theorem isOwn_transfer (table : Table) (follows : Bool) (item : Wanted) :
    (transfer table follows item).IsOwn := by
  intro file h
  unfold transfer at h ⊢
  split at h
  next => cases h
  next received hroute =>
    obtain rfl := Except.ok.inj h
    exact .inl (inlineFile_of_route hroute)
  next path hroute => exact .inr ⟨path, _, h⟩

/-- The fingerprint of the asset of a transfer. -/
def Transfer.print (transfer : Transfer) : String :=
  fingerprint transfer.item.mediaId

/-- Whether a transfer has put its file at a place. -/
def Transfer.IsAt (directory : Path) (tree : Tree) (place : String) (transfer : Transfer) : Prop :=
  ∃ file, transfer.received = .ok file ∧ place = (directory.child file.name).text ∧
    tree.Holds (directory.child file.name) file.bytes

/-- Whether all assets that have come are where their transfers have put them; those to come have
    other fingerprints. -/
def Placed (directory : Path) (transfers left : List Transfer) (gathering : Gathering)
    (tree : Tree) : Prop :=
  ∀ id place, (id, .finished place) ∈ gathering.tasks →
    ∃ transfer ∈ transfers, transfer.item.mediaId = id ∧ transfer.IsAt directory tree place ∧
      transfer.print ∉ left.map Transfer.print

variable {directory : Path} {transfers : List Transfer}

theorem Transfer.IsAt.deliver {transfer next : Transfer} {tree : Tree} {place : String}
    (h : transfer.IsAt directory tree place) (hown : transfer.IsOwn) (hnext : next.IsOwn)
    (hprint : transfer.print ≠ next.print) :
    transfer.IsAt directory ((deliver directory next.received).run.run tree).2 place := by
  obtain ⟨file, hfile, hplace, hholds⟩ := h
  refine ⟨file, hfile, hplace, ?_⟩
  have hof := hown file hfile
  refine holds_after_deliver hof.isPlainName hholds fun other hother => ?_
  have hofOther := hnext other hother
  refine ⟨hofOther.isPlainName, fun hname => hprint ?_⟩
  exact (hofOther.eq_of_name_eq hof hname).2.symm

/-- Whatever one transfer comes to, the assets stay where they are. -/
theorem Placed.step {next : Transfer} {rest : List Transfer} {gathering : Gathering} {tree : Tree}
    (h : Placed directory transfers (next :: rest) gathering tree)
    (hown : ∀ transfer ∈ transfers, transfer.IsOwn) (hnext : next ∈ transfers)
    (hprint : next.print ∉ rest.map Transfer.print) :
    let delivered := (deliver directory next.received).run.run tree
    Placed directory transfers rest (gathering.finish next.item.mediaId delivered.1)
      delivered.2 := by
  intro delivered id place hmem
  rcases Gathering.mem_finish hmem with hbefore | ⟨rfl, hok⟩
  · obtain ⟨transfer, htransfer, hid, hat, hleft⟩ := h id place hbefore
    rw [List.map_cons, List.mem_cons, not_or] at hleft
    exact ⟨transfer, htransfer, hid,
      hat.deliver (hown transfer htransfer) (hown next hnext) hleft.1, hleft.2⟩
  · have hdelivered : (deliver directory next.received).run.run tree = (.ok place, delivered.2) :=
      Prod.ext hok rfl
    exact ⟨next, hnext, rfl, deliver_eq_ok hdelivered, hprint⟩

theorem placed_gather {left : List Transfer} {gathering : Gathering} {tree : Tree}
    (h : Placed directory transfers left gathering tree)
    (hown : ∀ transfer ∈ transfers, transfer.IsOwn) (hleft : left ⊆ transfers)
    (hnodup : (left.map Transfer.print).Nodup) (time : Binary64) :
    let last := (gather directory left gathering time).run tree
    ∃ more, Placed directory transfers more last.1.1 last.2 := by
  induction left generalizing gathering time tree with
  | nil => exact ⟨[], h⟩
  | cons next rest ih =>
      obtain ⟨hprint, hrest⟩ := List.nodup_cons.mp hnodup
      obtain ⟨hnext, hleft⟩ := List.cons_subset.mp hleft
      cases hrunning : gathering.isRunning with
      | false =>
          simp only [gather, hrunning]
          exact ⟨_, h⟩
      | true =>
          -- the next transfer has a fingerprint of its own, so it spares all earlier files
          simp only [gather, hrunning]
          exact ih (h.step hown hnext hprint) hleft hrest _

/-- Whether the places of assets are apart, and each of them holds the payload of its own asset. -/
structure Apart (directory : Path) (transfers : List Transfer) (locators : Locators) (tree : Tree) :
    Prop where
  own : ∀ id place, locators.find? id = some place →
    ∃ transfer ∈ transfers, transfer.item.mediaId = id ∧ transfer.IsAt directory tree place
  distinct : ∀ id other place, locators.find? id = some place →
    locators.find? other = some place → id = other

/-- Assets with different fingerprints are apart, in whatever order they come. -/
theorem apart_gather {items : List Wanted} {tree : Tree} {locators : Locators}
    (hown : ∀ transfer ∈ transfers, transfer.IsOwn)
    (hnodup : (transfers.map Transfer.print).Nodup) (time : Binary64) :
    let last := (gather directory transfers (.start items) time).run tree
    last.1.1.outcome? = some (.ok locators) → Apart directory transfers locators last.2 := by
  intro last houtcome
  have hstart : Placed directory transfers transfers (.start items) tree := by
    intro id place hmem
    simp [Gathering.start] at hmem
  obtain ⟨more, hplaced⟩ := placed_gather hstart hown (List.Subset.refl _) hnodup time
  obtain ⟨-, -, rfl⟩ := Gathering.outcome?_eq_ok.mp houtcome
  have hown' : ∀ id place, Locators.find? last.1.1.places id = some place →
      ∃ transfer ∈ transfers, transfer.item.mediaId = id ∧
        transfer.IsAt directory last.2 place := by
    intro id place hfind
    obtain ⟨transfer, htransfer, hid, hat, -⟩ :=
      hplaced id place (Gathering.mem_places.mp (mem_of_find?_eq_some hfind))
    exact ⟨transfer, htransfer, hid, hat⟩
  refine ⟨hown', fun id other place hfind hfind' => ?_⟩
  obtain ⟨first, hfirst, rfl, file, hfile, htext, -⟩ := hown' id place hfind
  obtain ⟨second, hsecond, rfl, file', hfile', htext', -⟩ := hown' other place hfind'
  have hof := hown first hfirst file hfile
  have hof' := hown second hsecond file' hfile'
  have hname := Path.text_child_injective hof.isPlainName hof'.isPlainName
    (htext.symm.trans htext')
  have hprint : first.print = second.print := (hof.eq_of_name_eq hof' hname).2
  rw [List.inj_on_of_nodup_map hnodup hfirst hsecond hprint]

theorem map_print {document : Document}
    (h : (transfers.map Transfer.item).Perm (wanted document)) :
    (transfers.map Transfer.print).Perm (document.usedMediaIds.map fingerprint) := by
  rw [← map_mediaId_wanted, List.map_map]
  have hprints := h.map (fingerprint ∘ Wanted.mediaId)
  rwa [List.map_map] at hprints

/-- A fetching in virtual time that succeeds has fetched nothing, or has gathered its assets. -/
theorem run_materialize_eq_ok {table : Table} {follows : Bool} {document : Document}
    {tree : Tree} {locators : Locators}
    (h : ((materialize table follows directory document).run tree).1.outcome = .ok locators) :
    locators = [] ∨ ∃ files,
      let last := (gather directory (inOrder ((wanted document).map (transfer table follows)))
        (.start (wanted document)) .zero).run files
      last.1.1.outcome? = some (.ok locators) ∧
        ((materialize table follows directory document).run tree).2 = last.2 := by
  rcases materialize_cases table follows directory document tree with
    ⟨-, hempty, -⟩ | ⟨-, fault, -, hfault⟩ | ⟨-, files, -, hgathered, hlast⟩
  · rw [hempty] at h
    exact .inl (Except.ok.inj h).symm
  · rw [hfault] at h
    cases h
  · exact .inr ⟨files, h ▸ hgathered, hlast⟩

theorem isOwn_of_mem_inOrder {table : Table} {follows : Bool} {items : List Wanted}
    {next : Transfer} (h : next ∈ inOrder (items.map (transfer table follows))) : next.IsOwn := by
  obtain ⟨item, -, rfl⟩ := List.mem_map.mp ((List.mergeSort_perm _ _).mem_iff.mp h)
  exact isOwn_transfer table follows item

/-- What a fetching in virtual time returns are paths that say something. -/
theorem ne_empty_of_materialize {table : Table} {follows : Bool} {document : Document}
    {tree : Tree} {locators : Locators}
    (h : ((materialize table follows directory document).run tree).1.outcome = .ok locators) :
    ∀ entry ∈ locators, entry.2 ≠ "" := by
  intro entry hentry
  rcases run_materialize_eq_ok h with rfl | ⟨files, hgathered, -⟩
  · cases hentry
  · obtain ⟨-, course, result, hreached, htasks, hdeliveries, -, -⟩ :=
      returns_gather (map_item_inOrder table follows document) directory .zero files
    obtain ⟨-, -, rfl⟩ := Gathering.outcome?_eq_ok.mp hgathered
    have hdelivered : ⟨entry.1, .ok entry.2⟩ ∈ course.deliveries := by
      rw [(Course.orderly_of_reached hreached).delivered, htasks]
      exact Gathering.mem_places.mp hentry
    rw [hdeliveries] at hdelivered
    obtain ⟨next, hnext, -, file, hfile, hplace⟩ := exists_file_of_mem_deliverAll hdelivered
    have hplain := (isOwn_of_mem_inOrder hnext file hfile).isPlainName
    rw [hplace, Path.child_of_plain hplain]
    exact Path.text_ne_empty (.inr ⟨file.name, List.mem_append_right _ List.mem_cons_self,
      hplain.ne_empty⟩)

/-- How the files of a document's assets lie in their directory, whatever their ids, their
    locators and the answers of servers are. -/
structure KeepsApart (document : Document) : Prop where
  /-- A file is a direct child of the directory, under a name that begins with a safe stem. -/
  child : ∀ item file, Received.IsOf item file →
    Path.IsPlainName file.name ∧
    (∀ directory : Path, directory.child file.name =
      { directory with names := directory.names ++ [file.name] }) ∧
    ∃ stem extension, file.name = stem ++ extension ∧ stem ≠ "" ∧
      ∀ c ∈ stem.toList, isSafe c = true
  /-- What is in it is the payload of the asset. -/
  payload : ∀ item file, Received.IsOf item file →
    (∃ uri, decodeDataUri item.locator = .ok uri ∧ file.bytes = uri.payload) ∨
      ∃ path contentType,
        downloadedFile item path (.response 200 contentType file.bytes) = .ok file
  /-- Nothing else is written. -/
  writes : ∀ item received, (∀ file, received = .ok file → Received.IsOf item file) →
    ∀ directory place, (∀ file, received = .ok file →
      place ≠ Place.reach [] directory.names ++ [file.name]) →
      Call.KeepsTo Eq place (deliver directory received)
  /-- Files of one name belong to ids that look the same and have one fingerprint. -/
  named : ∀ item other file file', Received.IsOf item file → Received.IsOf other file' →
    file.name = file'.name →
      sanitize item.mediaId = sanitize other.mediaId ∧
        fingerprint item.mediaId = fingerprint other.mediaId
  /-- What a fetching comes to for a medium is a file of that medium. -/
  own : ∀ table follows item, (transfer table follows item).IsOwn
  /-- With different fingerprints the assets are apart, for transfers that end in any order, -/
  gathers : (document.usedMediaIds.map fingerprint).Nodup →
    ∀ directory transfers time tree locators,
      (transfers.map Transfer.item).Perm (wanted document) →
      (∀ transfer ∈ transfers, transfer.IsOwn) →
      let last := (gather directory transfers (.start (wanted document)) time).run tree
      last.1.1.outcome? = some (.ok locators) → Apart directory transfers locators last.2
  /-- and for a whole fetching. -/
  materializes : (document.usedMediaIds.map fingerprint).Nodup →
    ∀ table follows directory tree locators,
      let last := (materialize table follows directory document).run tree
      last.1.outcome = .ok locators →
        Apart directory ((wanted document).map (transfer table follows)) locators last.2

theorem ne_empty_of_fileStem {mediaId stem : String} (h : fileStem mediaId = .ok stem) :
    stem ≠ "" := by
  rintro rfl
  exact List.not_mem_nil (no_slash_of_fileStem h).2

/-- The asset files of every document lie in their directory and apart. -/
theorem materialize_apart (document : Document) : KeepsApart document where
  child item file h := by
    have hplain := h.isPlainName
    obtain ⟨stem, path, contentType, hstem, hname, -⟩ := h.cases
    exact ⟨hplain, Path.child_of_plain hplain, stem, _, hname, ne_empty_of_fileStem hstem,
      fun c hc => isSafe_of_mem_fileStem hstem hc⟩
  payload item file h := by
    obtain ⟨_, _, _, -, -, hpayload⟩ := h.cases
    exact hpayload
  writes item received hreceived directory place hplace := by
    refine keepsTo_deliver fun file hfile hreach => ?_
    have hplain := (hreceived file hfile).isPlainName
    rw [reach_child hplain] at hreach
    exact absurd hreach.symm (hplace file hfile)
  named item other file file' h h' hname := h.eq_of_name_eq h' hname
  own := isOwn_transfer
  gathers hnodup directory transfers time tree locators hperm hown :=
    apart_gather hown ((map_print hperm).nodup_iff.mpr hnodup) time
  materializes hnodup table follows directory tree locators := by
    intro last houtcome
    have hperm := map_item_inOrder table follows document
    rcases run_materialize_eq_ok houtcome with rfl | ⟨files, hgathered, hfiles⟩
    · exact ⟨nofun, nofun⟩
    · obtain ⟨howns, hdistinct⟩ :=
        apart_gather (fun next hnext => isOwn_of_mem_inOrder hnext)
          ((map_print hperm).nodup_iff.mpr hnodup) .zero hgathered
      refine ⟨fun id place hfind => ?_, hdistinct⟩
      obtain ⟨next, hnext, hid, hat⟩ := howns id place hfind
      rw [← hfiles] at hat
      exact ⟨next, (List.mergeSort_perm _ _).mem_iff.mp hnext, hid, hat⟩

/-- Two images whose ids look the same in names of files. -/
def sampleAlike : Document :=
  { Compile.sampleDocument with
    tracks :=
      [⟨"t1", none, .media, [Compile.sampleClip "e1" "clip 1" 0 false]⟩,
       ⟨"t2", none, .media, [Compile.sampleClip "e2" "clip_1" 0 false]⟩]
    mediaItems :=
      [("clip 1", Compile.sampleAsset .image (some "data:image/png;base64,QUFBQQ==")),
       ("clip_1", Compile.sampleAsset .image (some "data:image/png;base64,QkJCQg=="))] }

def sampleDirectory : Path := ⟨.absolute, ["assets"]⟩

def sampleTransfers : List Transfer :=
  (wanted sampleAlike).map (transfer [] true)

/-- The images are fetched into a directory that has just been made. -/
def sampleGathered : (Gathering × Binary64) × Tree :=
  (gather sampleDirectory sampleTransfers (.start (wanted sampleAlike)) .zero).run
    ((Call.makeDirectories sampleDirectory).run.run {}).2

/-- Where the images are then. -/
def samplePlaces : Locators :=
  [("clip 1", "/assets/clip_1-174400f7.png"), ("clip_1", "/assets/clip_1-3b12e053.png")]

theorem outcome?_sampleGathered : sampleGathered.1.1.outcome? = some (.ok samplePlaces) := by
  have hplaces : sampleGathered.1.1.outcome?.bind Except.toOption = some samplePlaces := by
    decide +kernel
  obtain ⟨outcome, houtcome, hok⟩ := Option.bind_eq_some_iff.mp hplaces
  cases outcome with
  | error fault => cases hok
  | ok locators =>
      obtain rfl := Option.some.inj hok
      exact houtcome

theorem materialize_apart_sampleAlike :
    (sampleAlike.usedMediaIds.map fingerprint).Nodup ∧
      sampleGathered.1.1.outcome? = some (.ok samplePlaces) ∧
      Apart sampleDirectory sampleTransfers samplePlaces sampleGathered.2 := by
  have hnodup : (sampleAlike.usedMediaIds.map fingerprint).Nodup := by
    decide +kernel
  have hitems : (sampleTransfers.map Transfer.item).Perm (wanted sampleAlike) := by
    simp [sampleTransfers, Function.comp_def, item_transfer]
  have hown : ∀ next ∈ sampleTransfers, next.IsOwn := by
    intro next hnext
    obtain ⟨item, -, rfl⟩ := List.mem_map.mp hnext
    exact isOwn_transfer [] true item
  exact ⟨hnodup, outcome?_sampleGathered, (materialize_apart sampleAlike).gathers hnodup
    sampleDirectory sampleTransfers .zero _ _ hitems hown outcome?_sampleGathered⟩

/-- Both images are there at once, so they are gathered in the order of the document. -/
theorem outcome_materialize_sampleAlike :
    ((materialize [] true sampleDirectory sampleAlike).run {}).1.outcome = .ok samplePlaces := by
  have hsorted : inOrder sampleTransfers = sampleTransfers :=
    List.mergeSort_of_pairwise (by decide +kernel)
  rcases materialize_cases [] true sampleDirectory sampleAlike {} with
    ⟨hnone, -, -⟩ | ⟨-, fault, hfault, -⟩ | ⟨-, files, hfiles, houtcome, -⟩
  · have hsome : wanted sampleAlike ≠ [] := by decide +kernel
    exact absurd hnone hsome
  · have hmade : ((Call.makeDirectories sampleDirectory).run.run {}).1.toOption = some () := by
      decide +kernel
    rw [hfault] at hmade
    cases hmade
  · have hgathered : sampleGathered = (gather sampleDirectory (inOrder sampleTransfers)
        (.start (wanted sampleAlike)) .zero).run files := by
      rw [hsorted, sampleGathered, hfiles]
    have hplaces := outcome?_sampleGathered
    rw [hgathered] at hplaces
    exact Option.some.inj (houtcome.symm.trans hplaces)

end Montage.Web
