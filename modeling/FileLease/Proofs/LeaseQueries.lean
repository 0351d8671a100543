import FileLease.Proofs.FormQueries
import FileLease.Proofs.LeaseUrls

/-!
# Queries of leases as names and values

The query of a lease has the names and values of the query of the service, the component, the
timeout and those of the token, in this order. Nothing is lost, and nothing is encoded twice.
-/
namespace FileLease.Http
open Text Url

variable {c : Client} {s : Settings}

/-- The timeout as it stands in a query; zero does not. -/
def timeoutPairs : Option UInt32 → List (List UInt8 × List UInt8)
  | some n => if 0 < n then [(bytesOf "timeout", bytesOf (String.ofList (decimal n.toNat)))] else []
  | none => []

theorem formPairs_timeout (n : Nat) : formPairs (formPair "timeout" (String.ofList (decimal n))) =
    [(bytesOf "timeout", bytesOf (String.ofList (decimal n)))] := by
  refine formPairs_formPair (by decide) ?_
  rw [String.toList_ofList]
  exact clear_decimal (by decide) n

theorem formPairs_timedQuery (c : Client) (timeout : Option UInt32) :
    formPairs (c.timedQuery timeout) = formPairs (c.serviceUrl.query.getD []) ++
      (bytesOf "comp", bytesOf "lease") :: timeoutPairs timeout := by
  have component : formPairs (appendPair c.serviceUrl.query "comp" "lease") =
      formPairs (c.serviceUrl.query.getD []) ++ [(bytesOf "comp", bytesOf "lease")] := by
    rw [formPairs_appendPair, formPairs_formPair (by decide) (by decide)]
  unfold Client.timedQuery
  dsimp only
  cases timeout with
  | none => exact component
  | some n =>
    by_cases positive : 0 < n
    · have kept : Client.positive? (some n) = some n :=
        Option.filter_some_pos (by simpa using positive)
      rw [kept]
      dsimp only
      rw [formPairs_appendPair, Option.getD_some, component, formPairs_timeout, timeoutPairs,
        if_pos positive, List.append_assoc]
      rfl
    · have none : Client.positive? (some n) = none :=
        Option.filter_some_neg (by simpa using positive)
      rw [none, timeoutPairs, if_neg positive]
      exact component

theorem formPairs_leaseQuery (h : c.serviceUrl.Canonical) (timeout : Option UInt32) :
    formPairs (c.leaseQuery timeout) = formPairs (c.timedQuery timeout) ++
      formPairs ((c.sasToken.getD []).filter (! isIgnored ·)) := by
  unfold Client.leaseQuery
  cases c.sasToken with
  | none =>
    dsimp only [Option.getD_none]
    rw [List.filter_nil, formPairs_nil, List.append_nil]
  | some token =>
    have seen : Clear isUnseen (c.timedQuery timeout) :=
      (clear_timedQuery h timeout).mono fun c hc => unseen_eq_false (visible_of_inQuerySet hc)
    dsimp only [Option.getD_some]
    rw [formPairs_encode, List.filter_append, filter_isIgnored_eq_self seen,
      List.filter_cons_of_pos rfl, formPairs_append]

/-- A token that is empty is none. -/
theorem sasToken_getD (made : Client.ofSettings s = .ok c) :
    c.sasToken.getD [] = (s.sasToken.getD "").toList.dropWhile (· = '?') := by
  rw [(of_ofSettings made).2]
  cases s.sasToken with
  | none => rfl
  | some token =>
    rw [Option.map_some, Option.getD_some]
    cases token.toList.dropWhile (· = '?') with
    | nil => rfl
    | cons => rfl

/-- The query of the URL of a lease has the names and values of the account's URL, the component,
the timeout if it is not zero, and those of the token without the question marks in front of it and
without tabs and line breaks. -/
theorem leaseUrl_pairs (s : Settings) (c : Client) (made : Client.ofSettings s = .ok c)
    (p : SharePath) (timeout : Option UInt32) :
    ∃ account u query, s.serviceUrl = .ok account ∧ c.checkedLeaseUrl p timeout = .ok u ∧
      u.query = some query ∧
      formPairs query = formPairs (account.query.getD []) ++
        (bytesOf "comp", bytesOf "lease") :: timeoutPairs timeout ++
        formPairs (((s.sasToken.getD "").toList.dropWhile (· = '?')).filter (! isIgnored ·)) := by
  have url : c.checkedLeaseUrl p timeout = .ok (c.leaseUrl p timeout) :=
    if_pos (canBeBase_web c.serviceUrl)
  refine ⟨c.serviceUrl, c.leaseUrl p timeout, c.leaseQuery timeout, (of_ofSettings made).1, url,
    rfl, ?_⟩
  rw [formPairs_leaseQuery (canonical_of_ofSettings made), formPairs_timedQuery, sasToken_getD made]

/-- What is percent encoded in the account's URL and in the token is still meant as before. -/
theorem leaseUrl_pairs_of_parts :
    let c := Client.ofParts
    ∃ u query, Client.ofSettings settingsOfParts = .ok c ∧
      c.checkedLeaseUrl ⟨"share", "a?b"⟩ (some 5) = .ok u ∧ u.query = some query ∧
      formPairs query = [(bytesOf "x", bytesOf "'"), (bytesOf "comp", bytesOf "lease"),
        (bytesOf "timeout", bytesOf "5"), (bytesOf "sv", bytesOf "1+#/../@e"),
        (bytesOf "sig", bytesOf "a b")] := by
  intro c
  obtain ⟨account, u, query, service, url, has, pairs⟩ :=
    leaseUrl_pairs settingsOfParts c ofSettings_parts ⟨"share", "a?b"⟩ (some 5)
  have same : c.serviceUrl = account :=
    Except.ok.inj ((of_ofSettings ofSettings_parts).1.symm.trans service)
  subst same
  refine ⟨u, query, ofSettings_parts, url, has, pairs.trans ?_⟩
  simp only [timeoutPairs, bytesOf_eq]
  decide +kernel

end FileLease.Http
