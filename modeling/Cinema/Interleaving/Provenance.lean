import Cinema.Interleaving.Remote

/-!
# Where messages and rows come from

A message was let in from outside or is one that a job has sent; where rows are
only added, those of the store are the old ones and what the recorded calls
have written.
-/

namespace Cinema.Interleaving

namespace Network

variable {Msg Store Env Failure Call : Type} {Reply : Call → Type}
  {Err α : Type} {network : Network Msg Store Env Failure Call Reply Err α}
  {admits : Traffic Msg Store Env Failure Call Reply Err α → Msg → Prop}
  {traffic later : Traffic Msg Store Env Failure Call Reply Err α}

/-! ## Messages -/

private theorem Steps.source (step : network.Steps admits traffic later)
    {index : Nat} {job : Job Msg Env Failure Call Reply Err α}
    (found : later.jobs[index]? = some job) :
    (∃ old : Job Msg Env Failure Call Reply Err α,
        traffic.jobs[index]? = some old ∧ job.message = old.message) ∨
      (index = traffic.jobs.length ∧ admits traffic job.message) ∨
      ∃ sender ∈ later.jobs, index ∈ sender.sent := by
  have onward := step.extends
  cases step with
  | arrive message admitted =>
      by_cases inside : index < traffic.jobs.length
      · rw [List.getElem?_append_left inside] at found
        exact .inl ⟨job, found, rfl⟩
      · rw [List.getElem?_append_right (Nat.le_of_not_lt inside)] at found
        obtain ⟨small, rfl⟩ := List.getElem?_eq_some_iff.mp found
        have isLast : index = traffic.jobs.length := by
          simp only [List.length_singleton] at small
          omega
        exact .inr (.inl ⟨isLast, by simpa [Job.travelling] using admitted⟩)
  | @advance acting after store spawned position actingFound taken =>
      by_cases inside : index < traffic.jobs.length
      · obtain ⟨other, otherFound, continues⟩ :=
          onward index traffic.jobs[index] (List.getElem?_eq_getElem inside)
        rw [found] at otherFound
        cases otherFound
        exact .inl ⟨_, List.getElem?_eq_getElem inside, continues.message⟩
      · have new : spawned[index - traffic.jobs.length]? = some job := by
          rw [List.getElem?_append_right (by simpa using inside)] at found
          simpa using found
        have acts : position < traffic.jobs.length :=
          (List.getElem?_eq_some_iff.mp actingFound).1
        cases taken with
        | send call next message pending isRemote unsent =>
            obtain ⟨small, _⟩ := List.getElem?_eq_some_iff.mp new
            have isIndex : index = traffic.jobs.length := by
              simp only [List.length_singleton] at small
              omega
            refine .inr (.inr ⟨_, List.mem_append_left _ (List.mem_set acts _),
              ?_⟩)
            simp [Job.sent, isIndex]
        | deliver => cases new
        | perform => cases new
        | answer => cases new
        | abandon => cases new

/-- Every message of a run was admitted at the moment it arrived, or was sent by
one of its jobs. -/
theorem Runs.source {store : Store}
    (runs : network.Runs admits (.start store) later) {index : Nat}
    {job : Job Msg Env Failure Call Reply Err α}
    (found : later.jobs[index]? = some job) :
    (∃ earlier : Traffic Msg Store Env Failure Call Reply Err α,
        earlier.jobs.length = index ∧ admits earlier job.message ∧
        network.Runs admits (.start store) earlier ∧
        network.Runs admits earlier later) ∨
      ∃ sender ∈ later.jobs, index ∈ sender.sent := by
  induction runs generalizing job with
  | refl => cases found
  | @tail before after runs step induction =>
      rcases step.source found with
        ⟨old, oldFound, sameMessage⟩ | ⟨isLast, admitted⟩ | sent
      · rw [sameMessage]
        rcases induction oldFound with
          ⟨earlier, isIndex, admitted, reached, onward⟩ |
          ⟨sender, member, sent⟩
        · exact .inl ⟨earlier, isIndex, admitted, reached, onward.step step⟩
        · obtain ⟨position, senderFound⟩ := List.getElem?_of_mem member
          obtain ⟨next, nextFound, continues⟩ :=
            step.extends position sender senderFound
          exact .inr ⟨next, List.mem_of_getElem? nextFound,
            continues.sent.subset sent⟩
      · exact .inl
          ⟨before, isLast.symm, admitted, runs, (Runs.refl before).step step⟩
      · exact .inr sent

/-! ## Rows -/

/-- What all jobs have written. -/
def writtenBy {Row : Type}
    (written : Exchange Env Failure Call Reply Err → Option Row)
    (jobs : List (Job Msg Env Failure Call Reply Err α)) : List Row :=
  jobs.flatMap fun job => job.calls.filterMap written

private theorem filterMap_singleton {Row Item : Type}
    (written : Item → Option Row) (item : Item) :
    [item].filterMap written = (written item).toList := by
  cases result : written item <;> simp [result]

private theorem writtenBy_set {Row : Type}
    {written : Exchange Env Failure Call Reply Err → Option Row}
    {jobs : List (Job Msg Env Failure Call Reply Err α)} {index : Nat}
    {job after : Job Msg Env Failure Call Reply Err α} {added : List Row}
    (found : jobs[index]? = some job)
    (grows : after.calls.filterMap written =
      job.calls.filterMap written ++ added) :
    (writtenBy written (jobs.set index after)).Perm
      (writtenBy written jobs ++ added) := by
  induction jobs generalizing index with
  | nil => cases found
  | cons head tail induction =>
      cases index with
      | zero =>
          cases found
          simp only [writtenBy, List.set_cons_zero, List.flatMap_cons, grows,
            List.append_assoc]
          exact (List.perm_append_comm).append_left _
      | succ index =>
          simp only [writtenBy, List.set_cons_succ, List.flatMap_cons,
            List.append_assoc]
          exact (induction found).append_left _

/-- Rows that are only ever added: at the end of a run there are those of the
beginning and those that the recorded calls have written. -/
theorem Runs.accumulates {Row : Type} (rows : Store → List Row)
    (written : Exchange Env Failure Call Reply Err → Option Row)
    {record : Record Msg Store Env Call Reply Err}
    (sound : record.Sound network)
    (adds : ∀ {message call} env store, record.allowed message call →
      network.remote call = none →
      rows (network.exec env call store).2 = rows store ++
        (written ⟨call, (network.exec env call store).1,
          .performed env⟩).toList)
    (remote : ∀ exchange : Exchange Env Failure Call Reply Err,
      (∀ env, exchange.means ≠ .performed env) → written exchange = none)
    {initial : Store} (runs : network.Runs admits (.start initial) later) :
    (rows later.store).Perm (rows initial ++ writtenBy written later.jobs) := by
  induction runs with
  | refl => simp [Traffic.start, writtenBy]
  | @tail before after runs step induction =>
      cases step with
      | arrive message admitted =>
          simpa [writtenBy, Job.travelling] using induction
      | @advance acting next store spawned position found taken =>
          have traced := Runs.traced traced_start runs acting
            (List.mem_of_getElem? found)
          have nothing : writtenBy written spawned = [] := by
            rw [writtenBy, List.flatMap_eq_nil_iff]
            intro job member
            obtain ⟨message, rfl⟩ := taken.travelling member
            rfl
          have grown : ∀ {added}, rows store = rows before.store ++ added →
              next.calls.filterMap written =
                acting.calls.filterMap written ++ added →
              (rows store).Perm (rows initial ++
                writtenBy written (before.jobs.set position next ++ spawned)) := by
            intro added more calls
            have jobs : writtenBy written
                (before.jobs.set position next ++ spawned) =
                writtenBy written (before.jobs.set position next) := by
              rw [writtenBy, List.flatMap_append]
              exact (congrArg _ nothing).trans (List.append_nil _)
            rw [more, jobs]
            refine (induction.append_right added).trans ?_
            rw [List.append_assoc]
            exact ((writtenBy_set found calls).symm).append_left _
          cases taken with
          | deliver => exact grown (List.append_nil _).symm (by simp)
          | send => exact grown (List.append_nil _).symm (by simp)
          | perform env call rest pending isLocal =>
              refine grown (adds env before.store (traced.allowed sound pending)
                isLocal) ?_
              rw [List.filterMap_append]
              exact congrArg _ (filterMap_singleton written _)
          | answer call rest child other outcome pending waits childFound
              answered =>
              refine grown (List.append_nil _).symm ?_
              simp [List.filterMap_append, remote]
          | abandon call rest message failure pending isRemote =>
              refine grown (List.append_nil _).symm ?_
              simp [List.filterMap_append, remote]

end Network

end Cinema.Interleaving
