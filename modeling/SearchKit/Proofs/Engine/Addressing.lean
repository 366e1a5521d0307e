import SearchKit.Engine.Http
import SearchKit.Proofs.Checked
import SearchKit.Proofs.Settings.Addresses
import SearchKit.Proofs.Url.LostSegments

/-!
The address that an action is sent to. A client puts the segments of an action behind the path of
the host whose turn it is; when that says which index, type and id are meant, and when it says
something else.
-/

namespace SearchKit

set_option autoImplicit false

theorem Action.segments_ne_nil (action : Action) : action.segments ≠ [] := by
  cases action <;> simp [Action.segments]

namespace HttpClient

theorem read_path_of_host {address : String} {host : Url}
    (read : hostUrl address = .ok host) : host.ReadPath := by
  unfold hostUrl at read
  split at read
  · contradiction
  · contradiction
  · rename_i found
    injection read with same
    exact same ▸ Url.read_path_of_text found

theorem hosts_of_settings {settings : Settings} {client : HttpClient}
    (built : ofSettings settings = .ok client) :
    List.Forall₂ (fun entry host => hostUrl (Settings.addressOf entry) = .ok host)
      settings.namedHosts client.hosts ∧ client.turn = 0 ∧ client.opened = true := by
  obtain ⟨hosts, read, made⟩ := (Checked.bind_eq_ok _ _ _).mp built
  have each := (Checked.map_m_eq_ok _ _ _).mp read
  rw [Settings.addresses_eq_of_named, List.forall₂_map_left_iff] at each
  split at made
  · contradiction
  · have same := (Checked.pure_eq_ok _ _).mp made
    subst same
    exact ⟨each, rfl, rfl⟩

theorem read_paths_of_settings {settings : Settings} {client : HttpClient}
    (built : ofSettings settings = .ok client) : ∀ host ∈ client.hosts, host.ReadPath := by
  obtain ⟨each, -, -⟩ := hosts_of_settings built
  generalize settings.namedHosts = entries at each
  generalize client.hosts = hosts at each ⊢
  induction each with
  | nil => simp
  | cons first _ ih => exact List.forall_mem_cons.mpr ⟨read_path_of_host first, ih⟩

theorem current_host_mem (client : HttpClient) : client.currentHost ∈ client.hosts :=
  List.get_mem _ _

/-- Cut at its slashes and decoded, the path of a request says the path of the host and behind it
the segments of the action exactly when the host carries them. Among segments that it carries, none
are taken for others: where two actions go to one host and have one URL, they have the same
segments. -/
theorem segments_are_sent_iff_carried {settings : Settings} {client : HttpClient}
    (built : ofSettings settings = .ok client) (turn : UInt64) (action : Action) :
    let host := { client with turn := turn }.currentHost
    let url := { client with turn := turn }.urlFor action
    (url.path.parts.map Url.decode =
        host.path.stem.map Url.decode ++ action.segments.map (fun segment => Url.utf8 segment.toList) ↔
      host.Carries action.segments) ∧
    ∀ (later : UInt64) (other : Action), { client with turn := later }.currentHost = host →
      host.Carries action.segments → host.Carries other.segments →
      { client with turn := later }.urlFor other = url → other.segments = action.segments := by
  intro host url
  have read : host.ReadPath :=
    read_paths_of_settings built host (current_host_mem { client with turn := turn })
  refine ⟨Url.keeps_iff_carries read action.segments_ne_nil, ?_⟩
  intro later other sameHost carried otherCarried sameUrl
  have kept := Url.keeps_of_carries read action.segments_ne_nil carried
  have otherKept := Url.keeps_of_carries read other.segments_ne_nil otherCarried
  have otherUrl : host.withSegments other.segments = url := by
    rw [← sameUrl, urlFor, sameHost]
  have oneUrl : host.withSegments action.segments = url := rfl
  rw [Url.Keeps, otherUrl] at otherKept
  rw [Url.Keeps, oneUrl, otherKept] at kept
  have sameBytes := List.append_cancel_left kept
  apply List.map_injective_iff.mpr _ sameBytes
  intro left right same
  exact String.toList_injective (Url.utf8_injective same)

def localHost : Url :=
  ⟨"http".toList, [], none, some (.name "localhost".toList), some 9200, false, Url.Path.root, none,
    none⟩

def localClient : HttpClient := ⟨[localHost], List.cons_ne_nil _ _, 0, true⟩

theorem client_of_default_settings : ofSettings Settings.default = .ok localClient := by
  have addresses : Settings.default.addresses = ["http://localhost:9200"] := by decide +kernel
  have host : Url.ofText "http://localhost:9200" = .ok (some localHost) := by decide +kernel
  rw [ofSettings, addresses, List.mapM_cons, hostUrl, host]
  rfl

theorem reserved_characters_are_carried :
    let action := Action.get ⟨"old/books", "book", "7?#%2F é"⟩
    (localClient.urlFor action).path.parts.map Url.decode =
      ["old/books", "book", "7?#%2F é"].map fun segment => Url.utf8 segment.toList := by
  intro action
  have allVisible : action.segments.all
      (fun segment => segment.toList.all fun character => !Url.isDropped character) = true := by
    decide +kernel
  have carried : localHost.Carries action.segments := by
    refine ⟨by decide, by decide +kernel, by simpa using allVisible, ?_, ?_⟩
    · intro _ isEmpty
      exact absurd isEmpty (by decide +kernel)
    · intro isFile
      exact absurd isFile (by decide +kernel)
  exact (segments_are_sent_iff_carried client_of_default_settings 0 action).1.mpr carried

/-- Two dots are left out, so that the type is asked for instead of the document, and one dot may
stand at any place without making a difference. -/
theorem segments_of_dots_are_dropped :
    ofSettings Settings.default = .ok localClient ∧
      (localClient.urlFor (.get ⟨"books", "book", ".."⟩)).path.parts.map Url.decode ≠
        localClient.currentHost.path.stem.map Url.decode
          ++ (Action.get ⟨"books", "book", ".."⟩).segments.map
            (fun segment => Url.utf8 segment.toList) ∧
      localClient.urlFor (.get ⟨"books", "book", "."⟩) =
        localClient.urlFor (.get ⟨"books", ".", "book"⟩) :=
  ⟨client_of_default_settings, by decide +kernel, by decide +kernel⟩

end HttpClient

end SearchKit
