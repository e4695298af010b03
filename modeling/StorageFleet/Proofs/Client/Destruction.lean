import StorageFleet.Proofs.Client.Request

/-!
# Destroying a filesystem over a network

A clone depends on the snapshot that it was made from, so a filesystem whose snapshots have clones
cannot go before one of them is promoted.  A client therefore asks for the snapshots of the
filesystem, promotes one clone if there is any, and only then asks for the deletion.

`Client.Destruction` says how such a sequence can end: each of the three requests may fail, the list
of snapshots may be unreadable, and whatever fails first is what the whole sequence fails with.
`destruction_of_yields` shows that there are no other ways.  Neither the listing nor the promotion
sends a `DELETE` (`SentFor.method_ne`, `Promoted.method_ne`), so a sequence that ends before the
deletion has sent none.
-/

namespace StorageFleet
open StorageFleet.Task (Event)

namespace Client

/-- Asks for the snapshots of the filesystem itself. -/
def snapshotListing (path : String) : Request where
  method := "GET"
  path := queryUri "storage/snapshots"
    [("parent", path), ("fields", "name,path,parent,clones,creationTxg,creationTime"),
      ("recursive", "false")]

/-- Asks to make a filesystem independent of the snapshot it was cloned from. -/
def promotion (clone : String) : Request where
  method := "POST"
  path := filesystemPath clone ++ "/promote"

/-- Asks for the deletion of a filesystem. -/
def deletion (path : String) (snapshots : Bool) : Request where
  method := "DELETE"
  path := queryUri (filesystemPath path)
    [("force", "true"), ("snapshots", if snapshots then "true" else "false")]

/-- The snapshots in a response. -/
def snapshotsIn (client : Client) (response : Response) : Except Fault (List Snapshot) :=
  response.decode (Reader.dataList Snapshot.record.read) client.endpoint

/-- The clone that has to be promoted before a filesystem with these snapshots can go. -/
def dependent? (snapshots : List Snapshot) : Option String :=
  (newestCloned snapshots).bind fun snapshot => snapshot.clones.head?

variable {client : Client} {path : String} {snapshots : Bool}

/-- The promotion of a clone, if there is one to promote. -/
def Promoted (client : Client) : Option String → List Event → Except Fault Unit → Prop
  | none, said, outcome => said = [] ∧ outcome = .ok ()
  | some clone, said, outcome =>
    ∃ ended, client.Submitted (promotion clone) said ended ∧ outcome = ended.map fun _ => ()

variable (client path snapshots) in
/-- How the destruction of a filesystem can end, and all that the client did for it, the latest
first. -/
inductive Destruction : List Event → Except Fault Unit → Prop where
  | unlisted {said fault}
      (listing : client.Submitted (snapshotListing path) said (.error fault)) :
      Destruction said (.error fault)
  | unread {said response fault}
      (listing : client.Submitted (snapshotListing path) said (.ok response))
      (read : client.snapshotsIn response = .error fault) : Destruction said (.error fault)
  | unpromoted {listed said response found fault}
      (listing : client.Submitted (snapshotListing path) listed (.ok response))
      (read : client.snapshotsIn response = .ok found)
      (promoted : client.Promoted (dependent? found) said (.error fault)) :
      Destruction (said ++ listed) (.error fault)
  | deleted {listed promoted said response found ended}
      (listing : client.Submitted (snapshotListing path) listed (.ok response))
      (read : client.snapshotsIn response = .ok found)
      (promoting : client.Promoted (dependent? found) promoted (.ok ()))
      (deletion : client.Submitted (deletion path snapshots) said ended) :
      Destruction (said ++ (promoted ++ listed)) (ended.map fun _ => ())

/-- The promotion comes after the list of snapshots, and only if that could be read. -/
lemma promoteNewestClone_of_yields {said : List Event} {outcome : Except Fault Unit}
    (h : (client.promoteNewestClone path).run.Yields said outcome) :
    (∃ fault, outcome = .error fault ∧
      client.Submitted (snapshotListing path) said (.error fault)) ∨
    (∃ response fault, outcome = .error fault ∧
      client.Submitted (snapshotListing path) said (.ok response) ∧
      client.snapshotsIn response = .error fault) ∨
    ∃ promoted listed response found, said = promoted ++ listed ∧
      client.Submitted (snapshotListing path) listed (.ok response) ∧
      client.snapshotsIn response = .ok found ∧
      client.Promoted (dependent? found) promoted outcome := by
  rcases Exchange.yields_bind (tidy_fetch _ _) h with
    ⟨fault, rfl, hfailed⟩ | ⟨later, earlier, found, rfl, hfound, hlater⟩
  · obtain ⟨answer, hsubmitted, hanswer⟩ := yields_fetch hfailed
    cases answer with
    | error fault' =>
      cases hanswer
      exact .inl ⟨fault, rfl, hsubmitted⟩
    | ok response => exact .inr (.inl ⟨response, fault, rfl, hsubmitted, hanswer.symm⟩)
  · obtain ⟨answer, hsubmitted, hanswer⟩ := yields_fetch hfound
    cases answer with
    | error fault' => cases hanswer
    | ok response =>
      refine .inr (.inr ⟨later, earlier, response, found, rfl, hsubmitted, hanswer.symm, ?_⟩)
      rw [← dependent?] at hlater
      cases hclone : dependent? found with
      | none =>
        rw [hclone] at hlater
        exact Task.yields_done hlater
      | some clone =>
        rw [hclone] at hlater
        exact yields_order hlater

/-- There is no other way in which the destruction of a filesystem ends. -/
theorem destruction_of_yields {said : List Event} {outcome : Except Fault Unit}
    (h : (client.destroyFilesystem path snapshots true).run.Yields said outcome) :
    client.Destruction path snapshots said outcome := by
  have hsequence : ((client.promoteNewestClone path >>= fun _ =>
      client.order "DELETE" (queryUri (filesystemPath path)
        [("force", "true"), ("snapshots", flag snapshots)]) none).run).Yields said outcome := h
  rcases Exchange.yields_bind (tidy_promoteNewestClone path) hsequence with
    ⟨fault, rfl, hfailed⟩ | ⟨later, earlier, done, rfl, hpromoted, hdeleted⟩
  · rcases promoteNewestClone_of_yields hfailed with ⟨_, hfault, listing⟩ |
      ⟨response, _, hfault, listing, read⟩ | ⟨promoted, listed, response, found, rfl, listing, read,
      promoting⟩
    · cases hfault
      exact .unlisted listing
    · cases hfault
      exact .unread listing read
    · exact .unpromoted listing read promoting
  · obtain ⟨ended, deletion, rfl⟩ := yields_order hdeleted
    rcases promoteNewestClone_of_yields hpromoted with ⟨_, hfault, -⟩ | ⟨-, _, hfault, -, -⟩ |
      ⟨promoted, listed, response, found, rfl, listing, read, promoting⟩
    · cases hfault
    · cases hfault
    · exact .deleted listing read promoting deletion

/-- What is sent for a request that deletes nothing deletes nothing. -/
lemma SentFor.method_ne {request sent : Request} (h : client.SentFor request sent)
    (hrequest : request.method ≠ "DELETE") : sent.method ≠ "DELETE" := by
  cases h with
  | own session => exact hrequest
  | login => simp [loginRequest]
  | look job session => simp [statusRequest, Request.signed]

/-- For a clone that is to be promoted nothing is deleted. -/
lemma Promoted.method_ne {clone : Option String} {said : List Event} {outcome : Except Fault Unit}
    (h : client.Promoted clone said outcome) {sent : Request} (hsent : .sent sent ∈ said) :
    sent.method ≠ "DELETE" := by
  cases clone with
  | none =>
    obtain ⟨rfl, -⟩ := h
    simp at hsent
  | some clone =>
    obtain ⟨ended, submitted, -⟩ := h
    exact (submitted.sentFor hsent).method_ne (by simp [promotion])

end Client
end StorageFleet
