import FileLease.Proofs.RedirectChains
import FileLease.Proofs.UrlTexts

/-!
# URLs of leases as texts

The parts of the URL of a lease are encoded like those of a URL that is read, whatever the names of
share and file and the token hold. So its text says where the call goes: it is read as that URL.
-/
namespace FileLease.Url
open Text

variable {path : List (List Char)} {c : Char} {s : List Char}

/-- What is kept in a pushed segment is kept in a path, and no slash is. -/
theorem of_inSegmentSet (h : inSegmentSet c = false) : inPathSet c = false ∧ isSlash c = false := by
  simp only [inSegmentSet, Bool.or_eq_false_iff] at h
  exact ⟨h.1.1.1, by simp [isSlash, h.1.1.2, h.2]⟩

theorem mem_popEmpty (h : s ∈ popEmpty path) : s ∈ path := by
  unfold popEmpty at h
  split at h
  · exact List.dropLast_subset path h
  · exact h

theorem popEmpty_ne_nil (ne : path ≠ []) : popEmpty path ≠ [] := by
  unfold popEmpty
  split
  · rename_i longer
    intro none
    have length := congrArg List.length none
    rw [List.length_dropLast, List.length_nil] at length
    have := List.length_pos_iff.mpr ne
    omega
  · exact ne

theorem segments_pushSegment (h : ∀ s ∈ path, Segment s) (s : List Char) :
    ∀ t ∈ pushSegment path s, Segment t := by
  unfold pushSegment
  split
  · exact h
  · have below : ∀ t ∈ (if path = [[]] then [] else path), Segment t := by
      split
      · exact List.forall_mem_nil _
      · exact h
    exact segments_finish below
      (clear_encode (fun c _ hc => (of_inSegmentSet hc).1) rfl (by decide))
      (clear_encode (fun c _ hc => (of_inSegmentSet hc).2) rfl (by decide))

theorem pushSegment_ne_nil (ne : path ≠ []) (s : List Char) : pushSegment path s ≠ [] := by
  unfold pushSegment
  split
  · exact ne
  · exact finish_ne_nil _ _

theorem foldl_pushSegment (h : ∀ s ∈ path, Segment s) (ne : path ≠ [])
    (segments : List (List Char)) :
    (∀ s ∈ segments.foldl pushSegment path, Segment s) ∧ segments.foldl pushSegment path ≠ [] := by
  induction segments generalizing path with
  | nil => exact ⟨h, ne⟩
  | cons s segments ih => exact ih (segments_pushSegment h s) (pushSegment_ne_nil ne s)

theorem clear_appendPair {set : Char → Bool} (ampersand : set '&' = false)
    {query : Option (List Char)} (hq : ∀ q, query = some q → Clear set q) {name value : String}
    (pair : Clear set (formPair name value)) : Clear set (appendPair query name value) := by
  unfold appendPair
  split
  · exact pair
  · rename_i before hb
    refine clear_append.mpr ⟨?_, List.forall_mem_cons.mpr ⟨ampersand, pair⟩⟩
    cases query with
    | none => exact List.forall_mem_nil _
    | some q => exact hq q rfl

theorem clear_formPair_decimal (n : Nat) :
    Clear inQuerySet (formPair "timeout" (String.ofList (decimal n))) := by
  have name : Clear inQuerySet "timeout".toList := by decide
  have digits : Clear inQuerySet (String.ofList (decimal n)).toList := by
    rw [String.toList_ofList]
    exact clear_decimal (by decide) n
  exact clear_append.mpr ⟨name, List.forall_mem_cons.mpr ⟨rfl, digits⟩⟩

end FileLease.Url

namespace FileLease.Http
open Text Url

variable {c : Client} {s : Settings}

theorem serviceUrl_of_checked {account : Url} (h : s.checked = .ok account) :
    s.serviceUrl = .ok account := by
  unfold Settings.checked at h
  obtain ⟨url, read, h⟩ := bind_eq_ok.mp h
  dsimp only at h
  split at h
  · cases h
  · split at h
    · split at h
      · cases h
      · cases h
        exact read
    · cases h

theorem read_of_serviceUrl {account : Url} (h : s.serviceUrl = .ok account) :
    Url.read (trim s.accountUrl) = .ok (.web account) := by
  unfold Settings.serviceUrl at h
  dsimp only at h
  split at h
  · cases h
  · split at h
    · cases h
      assumption
    · cases h
    · cases h

/-- A client keeps the URL of its service, and the token without question marks in front of it. -/
theorem of_ofSettings (made : Client.ofSettings s = .ok c) : s.serviceUrl = .ok c.serviceUrl ∧
    c.sasToken = (s.sasToken.map fun t => t.toList.dropWhile (· = '?')).filter (! ·.isEmpty) := by
  rw [ofSettings_eq] at made
  cases checked : s.checked with
  | error e =>
    rw [checked] at made
    cases made
  | ok url =>
    rw [checked] at made
    simp only [Except.mapError, Except.bind] at made
    split at made
    · cases made
      exact ⟨serviceUrl_of_checked checked, rfl⟩
    · cases made

theorem ofSettings_of_checked {account : Url} (h : s.checked = .ok account)
    (text : isHeaderText (Release.userAgent s.userAgentSuffix) = true) :
    Client.ofSettings s = .ok ⟨account,
      (s.sasToken.map fun t => t.toList.dropWhile (· = '?')).filter (! ·.isEmpty), s.apiVersion,
      s.requestTimeout, Release.userAgent s.userAgentSuffix⟩ := by
  rw [ofSettings_eq, h]
  exact if_pos text

theorem canonical_of_ofSettings (made : Client.ofSettings s = .ok c) : c.serviceUrl.Canonical :=
  canonical_of_read (read_of_serviceUrl (of_ofSettings made).1)

theorem clear_timedQuery (h : c.serviceUrl.Canonical) (timeout : Option UInt32) :
    Clear inQuerySet (c.timedQuery timeout) := by
  have component : Clear inQuerySet (appendPair c.serviceUrl.query "comp" "lease") :=
    clear_appendPair rfl h.query (by decide)
  unfold Client.timedQuery
  dsimp only
  split
  · rename_i seconds _
    exact clear_appendPair rfl (fun q hq => Option.some.inj hq ▸ component)
      (clear_formPair_decimal seconds.toNat)
  · exact component

theorem clear_leaseQuery (h : c.serviceUrl.Canonical) (timeout : Option UInt32) :
    Clear inQuerySet (c.leaseQuery timeout) := by
  unfold Client.leaseQuery
  split
  · exact clear_encode_self rfl (by decide) _
  · exact clear_timedQuery h timeout

theorem canonical_leaseUrl (h : c.serviceUrl.Canonical) (p : SharePath) (timeout : Option UInt32) :
    (c.leaseUrl p timeout).Canonical := by
  have top : ∀ s ∈ popEmpty c.serviceUrl.path, Segment s := fun s hs => h.path s (mem_popEmpty hs)
  obtain ⟨path, ne⟩ := foldl_pushSegment (segments_pushSegment top p.share.toList)
    (pushSegment_ne_nil (popEmpty_ne_nil h.path_ne) p.share.toList)
    ((p.segments.filter (! ·.isEmpty)).map String.toList)
  exact {
    username := h.username
    password := h.password
    host := h.host
    port := h.port
    path_ne := ne
    path := path
    query := by rintro q ⟨⟩; exact clear_leaseQuery h timeout
    fragment := h.fragment }

/-- Something can be below the URL of any web service. -/
theorem canBeBase_web (u : Url) : u.canBeBase = true := by
  rw [canBeBase, characters_eq]
  cases u.scheme <;> rfl

/-- The URL of a lease can always be made. User, host, port and fragment are those of the account's
URL, and its text is read as this URL again, if the text of the host is read as the host. -/
theorem leaseUrl_read_back (s : Settings) (c : Client) (made : Client.ofSettings s = .ok c)
    (p : SharePath) (timeout : Option UInt32) :
    ∃ account u, s.serviceUrl = .ok account ∧ c.checkedLeaseUrl p timeout = .ok u ∧
      u.scheme = account.scheme ∧ u.username = account.username ∧
      u.password = account.password ∧ u.host = account.host ∧ u.port = account.port ∧
      u.fragment = account.fragment ∧
      (readHost account.host.text = .ok account.host → Url.read u.text = .ok (.web u)) := by
  have canonical := canonical_leaseUrl (canonical_of_ofSettings made) p timeout
  have base : c.checkedLeaseUrl p timeout = .ok (c.leaseUrl p timeout) :=
    if_pos (canBeBase_web c.serviceUrl)
  exact ⟨c.serviceUrl, c.leaseUrl p timeout, (of_ofSettings made).1, base, rfl, rfl, rfl, rfl, rfl,
    rfl, fun stable => read_text canonical stable⟩

/-- Settings for a service whose URL has all the parts that there are. -/
def settingsOfParts : Settings :=
  { Settings.default with
    accountUrl := "https://me:pw@192.168.0.1:8443/base/?x=%27#end"
    sasToken := some "??sv=1%2b#/../\t@e&&sig=a+b" }

def Client.ofParts : Client :=
  ⟨⟨.https, "me".toList, some "pw".toList, .ipv4 0xC0A80001, some 8443, ["base".toList, []],
    some "x=%27".toList, some "end".toList⟩, some "sv=1%2b#/../\t@e&&sig=a+b".toList,
    "2019-07-07", 30, "fileshare/0.1.0"⟩

theorem ofSettings_parts : Client.ofSettings settingsOfParts = .ok .ofParts :=
  ofSettings_of_checked (ok_of_toOption (by decide +kernel)) (by decide +kernel)

/-- Dots, slashes and other signs in the names and in the token do not lead elsewhere. -/
theorem leaseUrl_read_back_of_parts :
    let c := Client.ofParts
    ∃ u, Client.ofSettings settingsOfParts = .ok c ∧
      readHost c.serviceUrl.host.text = .ok c.serviceUrl.host ∧
      c.checkedLeaseUrl ⟨"..", "%2e%2E//a\\b?c#d@e"⟩ (some 5) = .ok u ∧
      u.text = "https://me:pw@192.168.0.1:8443/base/%252e%252E/a%5Cb%3Fc%23d@e" ++
        "?x=%27&comp=lease&timeout=5&sv=1%2b%23/../@e&&sig=a+b#end" ∧
      Url.read u.text = .ok (.web u) := by
  intro c
  let path : SharePath := ⟨"..", "%2e%2E//a\\b?c#d@e"⟩
  obtain ⟨account, u, service, url, -, -, -, -, -, -, back⟩ :=
    leaseUrl_read_back settingsOfParts c ofSettings_parts path (some 5)
  have same : c.serviceUrl = account :=
    Except.ok.inj ((of_ofSettings ofSettings_parts).1.symm.trans service)
  have stable : readHost c.serviceUrl.host.text = .ok c.serviceUrl.host :=
    ok_of_toOption (by decide +kernel)
  have text : (c.checkedLeaseUrl path (some 5)).toOption.map Url.text = some
      ("https://me:pw@192.168.0.1:8443/base/%252e%252E/a%5Cb%3Fc%23d@e" ++
        "?x=%27&comp=lease&timeout=5&sv=1%2b%23/../@e&&sig=a+b#end") := by decide +kernel
  rw [url] at text
  exact ⟨u, ofSettings_parts, stable, url, Option.some.inj text, back (same ▸ stable)⟩

end FileLease.Http
