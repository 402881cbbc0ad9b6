/-
  Montage.Proofs.Web.Refusals

  Urls that cannot be requested.  A url is refused for what is wrong with it, at the first
  request or at a redirect, and never with the failure of a job.
-/
import Montage.Proofs.Asset.Scheme

namespace Montage.Web

open Montage.Asset Montage.Number

/-! ## Parts of urls -/

namespace Url

theorem isForeign_of_escaped {safe : Char → Bool} {text : List Char} {fault : Fault}
    (h : escaped safe text = .error fault) : fault.IsForeign := by
  unfold escaped at h
  split at h
  · cases h
    nofun
  · cases h

theorem isForeign_of_mapM_escaped {safe : Char → Bool} {text : Option (List Char)} {fault : Fault}
    (h : text.mapM (escaped safe) = .error fault) : fault.IsForeign := by
  cases text with
  | none => cases h
  | some text => exact isForeign_of_escaped (error_of_map_eq_error h)

theorem isForeign_of_readHost {host : List Char} {fault : Fault}
    (h : readHost host = .error fault) : fault.IsForeign := by
  unfold readHost at h
  dsimp only at h
  split at h
  · split at h
    · cases h
    · cases h
      nofun
  · split at h
    · split at h
      · cases h
      · cases h
        nofun
    · split at h
      · exact isForeign_of_escaped h
      · split at h
        · cases h
        · cases h
          nofun

theorem isForeign_of_readPort {scheme : String} {port : List Char} {fault : Fault}
    (h : readPort scheme port = .error fault) : fault.IsForeign := by
  unfold readPort at h
  split at h
  · cases h
  · split at h
    · cases h
    · cases h
      nofun

theorem isForeign_of_pathFault? {hasScheme hasAuthority : Bool} {path : List Char} {fault : Fault}
    (h : pathFault? hasScheme hasAuthority path = some fault) : fault.IsForeign := by
  unfold pathFault? at h
  split at h
  · split at h
    · cases h
    · cases h
      nofun
  · split at h
    · cases h
    · split at h
      · cases h
        nofun
      · split at h
        · cases h
          nofun
        · cases h

theorem isForeign_of_characterFault? {place : String} {text : List Char} {fault : Fault}
    (h : characterFault? place text = some fault) : fault.IsForeign := by
  obtain ⟨_, -, rfl⟩ := Option.map_eq_some_iff.mp h
  nofun

/-! ## Urls -/

/-- What comes after the scheme, the host and the port. -/
theorem isForeign_of_rest {path : List Char} {query fragment : Option (List Char)} {fault : Fault}
    {build : String → Option String → Option String → Url}
    (h : (do
      let path ← escaped pathSafe path
      let query ← query.mapM (escaped querySafe)
      let fragment ← fragment.mapM (escaped fragmentSafe)
      return build path query fragment : Except Fault Url) = .error fault) : fault.IsForeign := by
  rcases error_of_bind_eq_error h with hpath | ⟨path, -, h⟩
  · exact isForeign_of_escaped hpath
  · rcases error_of_bind_eq_error h with hquery | ⟨query, -, h⟩
    · exact isForeign_of_mapM_escaped hquery
    · rcases error_of_bind_eq_error h with hfragment | ⟨fragment, -, h⟩
      · exact isForeign_of_mapM_escaped hfragment
      · cases h

theorem isForeign_of_ofParts {parts : Parts} {fault : Fault} (h : ofParts parts = .error fault) :
    fault.IsForeign := by
  unfold ofParts at h
  generalize splitAuthority parts.authority = authority at h
  obtain ⟨user, host, port⟩ := authority
  dsimp only at h
  rcases error_of_bind_eq_error h with huser | ⟨user, -, h⟩
  · exact isForeign_of_escaped huser
  · rcases error_of_bind_eq_error h with hhost | ⟨host, -, h⟩
    · exact isForeign_of_readHost hhost
    · rcases error_of_bind_eq_error h with hport | ⟨port, -, h⟩
      · exact isForeign_of_readPort hport
      · split at h
        next hpath =>
          cases h
          exact isForeign_of_pathFault? hpath
        next => exact isForeign_of_rest h

theorem isForeign_of_read {text : String} {fault : Fault} (h : Url.read text = .error fault) :
    fault.IsForeign := by
  unfold Url.read at h
  dsimp only at h
  split at h
  · cases h
    nofun
  · split at h
    next hcharacter =>
      cases h
      exact isForeign_of_characterFault? hcharacter
    next => exact isForeign_of_ofParts h

theorem isForeign_of_under {base url : Url} {fault : Fault} (h : under base url = .error fault) :
    fault.IsForeign := by
  unfold under at h
  split at h
  · cases h
  · exact isForeign_of_ofParts h

theorem isForeign_of_requestFault? {url : Url} {fault : Fault}
    (h : url.requestFault? = some fault) : fault.IsForeign := by
  unfold requestFault? at h
  dsimp only at h
  split at h
  · cases h
    nofun
  · obtain ⟨_, -, rfl⟩ := Option.map_eq_some_iff.mp h
    nofun

theorem isForeign_of_join {base reference : Url} {fault : Fault}
    (h : join base reference = .error fault) : fault.IsForeign := by
  unfold join at h
  dsimp only at h
  split at h
  · cases h
  · split at h
    · exact isForeign_of_read h
    · exact isForeign_of_read h

theorem isForeign_of_withFragmentOf {url other : Url} {fault : Fault}
    (h : url.withFragmentOf other = .error fault) : fault.IsForeign := by
  unfold withFragmentOf at h
  dsimp only at h
  split at h
  · cases h
  · split at h
    next hcharacter =>
      cases h
      exact isForeign_of_characterFault? hcharacter
    next => exact isForeign_of_ofParts h

theorem isForeign_of_target {url location : Url} {fault : Fault}
    (h : (do
      let target ← if location.isAbsolute then pure location else url.join location
      target.withFragmentOf url : Except Fault Url) = .error fault) : fault.IsForeign := by
  split at h
  · exact isForeign_of_withFragmentOf h
  · rcases error_of_bind_eq_error h with hjoin | ⟨target, -, h⟩
    · exact isForeign_of_join hjoin
    · exact isForeign_of_withFragmentOf h

theorem isForeign_of_redirected {url location : Url} {fault : Fault}
    (h : url.redirected location = .error fault) : fault.IsForeign := by
  unfold redirected at h
  dsimp only at h
  split at h
  · rcases error_of_bind_eq_error h with hhost | ⟨location, -, h⟩
    · exact isForeign_of_ofParts hhost
    · exact isForeign_of_target h
  · exact isForeign_of_target h

end Url

/-! ## Exchanges -/

theorem isOutside_refused {fault : Fault} (h : fault.IsForeign) :
    Download.IsOutside (.refused fault) := by
  intro other heq
  cases heq
  exact h

theorem isOutside_of_nextUrl {url : Url} {location : String} {download : Download}
    (h : nextUrl url location = .error download) : download.IsOutside := by
  unfold nextUrl at h
  split at h
  · cases h
    nofun
  next hread =>
    cases h
    exact isOutside_refused (Url.isForeign_of_read hread)
  · split at h
    next hlocation =>
      cases h
      split at hlocation
      · cases hlocation
      · exact isOutside_refused (Url.isForeign_of_requestFault? hlocation)
    next hredirected =>
      cases h
      exact isOutside_refused (Url.isForeign_of_redirected hredirected)
    · split at h
      next htarget =>
        cases h
        exact isOutside_refused (Url.isForeign_of_requestFault? htarget)
      next => cases h

theorem isForeign_of_headerFault? {answer : Answer} {fault : Fault}
    (h : answer.headerFault? = some fault) : fault.IsForeign := by
  obtain ⟨_, _, hheader⟩ := List.exists_of_findSome?_eq_some h
  obtain ⟨_, -, rfl⟩ := Option.map_eq_some_iff.mp hheader
  nofun

theorem isOutside_of_received {url : Url} {answer : Answer} {download : Download}
    (h : received url answer = .error download) : download.IsOutside := by
  unfold received at h
  split at h
  · cases h
    nofun
  next hheader =>
    cases h
    exact isOutside_refused (isForeign_of_headerFault? hheader)
  · split at h
    · cases h
      nofun
    · split at h
      · cases h
      · cases h
        exact isOutside_refused nofun

theorem isOutside_of_received_ok {url : Url} {answer : Answer} {download : Download}
    (h : received url answer = .ok download) : download.IsOutside := by
  unfold received at h
  split at h
  · cases h
  · cases h
  · split at h
    · cases h
    · split at h
      · cases h
        nofun
      · cases h

/-- However often a request is redirected. -/
theorem isOutside_exchangeFrom (table : Table) (follows : Bool) (fuel : Nat) (url : Url)
    (time : Binary64) : (exchangeFrom table follows fuel url time).download.IsOutside := by
  fun_induction exchangeFrom table follows fuel url time with
  | case1 => exact isOutside_of_received ‹_›
  | case2 => exact isOutside_of_received_ok ‹_›
  | case3 _ _ _ _ _ _ _ _ hnext =>
      obtain ⟨_, -, hlocation⟩ := Option.map_eq_some_iff.mp hnext
      exact isOutside_of_nextUrl hlocation
  | case4 => exact isOutside_of_received_ok ‹_›
  -- too many redirects
  | case5 => nofun
  | case6 _ _ _ _ _ _ _ _ _ _ _ _ ih => exact ih

theorem isOutside_exchange (table : Table) (follows : Bool) (url : String) :
    (exchange table follows url).download.IsOutside := by
  unfold exchange
  dsimp only
  split
  next fault hopened =>
    refine isOutside_refused ?_
    rcases error_of_bind_eq_error hopened with hread | ⟨read, -, hrest⟩
    · exact Url.isForeign_of_read hread
    · rcases error_of_bind_eq_error hrest with hunder | ⟨opened, -, hrequest⟩
      · exact Url.isForeign_of_under hunder
      · split at hrequest
        next hfault =>
          cases hrequest
          exact Url.isForeign_of_requestFault? hfault
        next => cases hrequest
  next opened _ => exact isOutside_exchangeFrom table follows _ opened _

/-- What the transfer of a medium comes to is what its fetching may come to. -/
theorem yields_transfer (table : Table) (follows : Bool) (item : Wanted) :
    item.Yields (transfer table follows item).received := by
  unfold transfer
  split
  next hroute => exact .refused hroute
  next hroute => exact .inline hroute
  next hroute => exact .remote hroute (isOutside_exchange table follows item.locator)

end Montage.Web
