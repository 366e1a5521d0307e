import SearchKit.Proofs.Engine.Addressing
import SearchKit.Proofs.Url.Confinement

/-!
Whether a name or an id can lead a request away from its host. It cannot change anything but the
path, or end the path early. It leads out of the path of the host when dots are hidden in it, unless
the host is one that holds every segment.
-/

namespace SearchKit

set_option autoImplicit false

namespace HttpClient

/-- What an action names reaches no part of the host's address but the path, and no mark in it ends
the path. Behind the path of the host there are at most as many parts as the action has segments
when the host holds them, and for every action exactly when the host is anchored. -/
theorem requests_stay_below_anchored_hosts {settings : Settings} {client : HttpClient}
    (built : ofSettings settings = .ok client) (turn : UInt64) :
    let current := { client with turn := turn }
    let host := current.currentHost
    (∀ action, current.urlFor action = { host with path := (current.urlFor action).path } ∧
      ∀ part ∈ (current.urlFor action).path.parts, '?' ∉ part ∧ '#' ∉ part) ∧
    (∀ action, host.Holds action.segments →
      (current.urlFor action).IsBelow host action.segments.length) ∧
    ((∀ action, (current.urlFor action).IsBelow host action.segments.length) ↔ host.IsAnchored) := by
  intro current host
  have read : host.ReadPath := read_paths_of_settings built host (current_host_mem current)
  refine ⟨?_, ?_, ?_, ?_⟩
  · intro action
    refine ⟨rfl, ?_⟩
    have isParts : (current.urlFor action).path.parts = (current.urlFor action).path :=
      Url.parts_with_segments read action.segments
    rw [isParts]
    intro part member
    have free {mark : Char} (isMark : mark ∈ Url.endMarks) : mark ∉ part :=
      Url.mark_free_with_segments read action.segments isMark part member
    exact ⟨free (by decide), free (by decide)⟩
  · exact fun action holds => Url.is_below_of_holds read action.segments_ne_nil holds
  · intro below
    have notTwice := Url.not_twice_of_below read (below (.deleteIndex "a"))
    exact ⟨notTwice, Url.not_file_root_of_below read (below (.deleteIndex "C:\tx")),
      Url.last_held_of_below read (below (.deleteIndex ".\t.")) notTwice⟩
  · exact fun anchored action => Url.is_below_of_anchored read anchored action.segments_ne_nil

def prefixedHost : Url := { localHost with path := ["es".toList] }

def prefixedClient : HttpClient := ⟨[prefixedHost], List.cons_ne_nil _ _, 0, true⟩

def prefixedSettings : Settings := { Settings.default with hosts := ["http://localhost:9200/es"] }

theorem client_of_prefixed_settings : ofSettings prefixedSettings = .ok prefixedClient := by
  have addresses : prefixedSettings.addresses = ["http://localhost:9200/es"] := by decide +kernel
  have host : Url.ofText "http://localhost:9200/es" = .ok (some prefixedHost) := by decide +kernel
  rw [ofSettings, addresses, List.mapM_cons, hostUrl, host]
  rfl

theorem marks_and_plain_dots_stay_below_the_prefix :
    let action := Action.get ⟨"../old?books", "..", "7#/%2e%2e"⟩
    (prefixedClient.urlFor action).IsBelow prefixedHost 3 := by
  intro action
  have holds : prefixedHost.Holds action.segments := by
    refine ⟨by decide, ?_, .inr (by decide)⟩
    intro isFile
    exact absurd isFile (by decide +kernel)
  exact (requests_stay_below_anchored_hosts client_of_prefixed_settings 0).2.1 action holds

/-- With a tab between two dots the name of an index leads to the address above the host's own. -/
theorem hidden_dots_leave_the_prefix :
    ofSettings prefixedSettings = .ok prefixedClient ∧
      (prefixedClient.urlFor (.deleteIndex ".\t.")).text = "http://localhost:9200/" ∧
      ¬(prefixedClient.urlFor (.deleteIndex ".\t.")).IsBelow prefixedClient.currentHost 1 := by
  refine ⟨client_of_prefixed_settings, by decide +kernel, ?_⟩
  rintro ⟨added, shown, -⟩
  have parts : (prefixedClient.urlFor (.deleteIndex ".\t.")).path.parts = [[]] := by decide +kernel
  have stem : prefixedClient.currentHost.path.stem = ["es".toList] := by decide +kernel
  rw [parts, stem] at shown
  injection shown with same
  contradiction

end HttpClient

end SearchKit
