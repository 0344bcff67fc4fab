import NodeGateway.Proofs.Query.Batch

/-!
# In What Order Batches Start and End

The batches of a query share a window, so several of them are under way at a time and they end in
any order. What the window keeps to nevertheless is said here, first for the jobs of any window.

* Jobs are started in their order (`Window.Course.sorted`), and a job only after those that it would
  find no place beside have ended with values (`Window.Course.room_of_start`).
* If some jobs fail, the run ends with the fault of the first of them in the order of the jobs, also
  where a later one fails earlier in time (`Window.Account.outcome_of_first`). No job is started
  that would not find a place beside that first one (`Window.Account.length_le_of_first`).
* A job is kept from being started only by one before it that fails
  (`Window.Account.exists_start`), so the first job that is bound to fail is always started.
* If none fails, the values of all jobs are handed on in their order
  (`Window.Account.outcome_of_all`); a single job is started once (`Window.Account.of_single`).

The main result is `Query.order_of_batched`, which says all of it for the batches of a query.
-/

namespace NodeGateway

namespace Window

variable {start : (now busy : Nat) → β → σ → Answer γ × σ} {limit : Nat} {origin state : σ}
  {started : List (Start β γ)}

namespace Course

/-- Jobs are started one after another. -/
theorem sorted (h : Course start limit origin started state) :
    started.Pairwise (·.instant ≤ ·.instant) := by
  induction h with
  | none => exact List.Pairwise.nil
  | next now job _ _ begun _ ih =>
      refine List.pairwise_append.mpr ⟨ih, List.pairwise_singleton _ _, fun s hs later hlater => ?_⟩
      rw [List.mem_singleton.mp hlater]
      exact begun s hs

/-- **A job finds a place**: those that it would have none beside have ended with values when it is
started. -/
theorem room_of_start (h : Course start limit origin started state) {i j : Nat}
    {earlier later : Start β γ} (hearlier : started[i]? = some earlier)
    (hlater : started[j]? = some later) (hapart : i + limit ≤ j) (hlimit : 0 < limit) :
    earlier.arrival ≤ later.instant ∧ ∃ value, earlier.outcome = .ok value := by
  induction h with
  | none => cases hlater
  | @next started _ now job _ _ _ room ih =>
      have hlast : j ≤ started.length := by
        have := (List.getElem?_eq_some_iff.mp hlater).1
        rw [List.length_append, List.length_singleton] at this
        omega
      rw [List.getElem?_append_left (by omega)] at hearlier
      rcases Nat.lt_or_eq_of_le hlast with hold | rfl
      · rw [List.getElem?_append_left hold] at hlater
        exact ih hearlier hlater
      · obtain rfl : _ = later := by simpa using hlater
        refine room earlier (List.mem_of_getElem? (i := i) ?_)
        rw [List.getElem?_take_of_lt (by omega), hearlier]

/-- Without a job nothing changes. -/
theorem state_of_nil (h : Course start limit origin started state) (hnil : started = []) :
    state = origin := by
  cases h with
  | none => rfl
  | next => simp at hnil

/-- The only job of a course is started at the beginning, with nothing else under way. -/
theorem of_singleton {s : Start β γ} (h : Course start limit origin started state)
    (hs : started = [s]) :
    s.answer = (start 0 1 s.job origin).1 ∧ state = (start 0 1 s.job origin).2 := by
  cases h with
  | none => cases hs
  | @next started state now job course prompt begun room =>
      obtain ⟨hnil, hlast⟩ := List.append_inj' (hs.trans (List.nil_append [s]).symm) rfl
      obtain rfl := course.state_of_nil hnil
      subst hnil
      obtain rfl := List.singleton_inj.mp hlast
      obtain rfl : now = 0 := prompt.resolve_right (by simp)
      exact ⟨rfl, rfl⟩

end Course

/-- A job is the **first to fail** if those before it end with values. -/
structure FirstFailed (started : List (Start β γ)) (k : Nat) (fault : Fault) : Prop where
  failed : ∃ s, started[k]? = some s ∧ s.outcome = .error fault
  succeeded : ∀ i < k, ∃ s value, started[i]? = some s ∧ s.outcome = .ok value

/-- If the outcomes of all jobs together are a fault, some job is the first to fail with it. -/
theorem exists_firstFailed {fault : Fault} (h : started.mapM Start.outcome = .error fault) :
    ∃ k, FirstFailed started k fault := by
  obtain ⟨before, s, after, rfl, hbefore, hs⟩ := mapM_eq_error_iff.mp h
  refine ⟨before.length, ⟨s, by simp, hs⟩, fun i hi => ?_⟩
  obtain ⟨value, hvalue⟩ := hbefore before[i] (List.getElem_mem hi)
  exact ⟨before[i], value, by simp [List.getElem?_append_left hi], hvalue⟩

/-- Only one job is the first to fail. -/
theorem FirstFailed.unique {k l : Nat} {fault other : Fault} (hk : FirstFailed started k fault)
    (hl : FirstFailed started l other) : k = l ∧ fault = other := by
  -- a job that fails does not stand before the first one that does
  have hle : ∀ {k l : Nat} {fault other : Fault}, FirstFailed started k fault →
      FirstFailed started l other → k ≤ l := by
    intro k l fault other hk hl
    refine Nat.not_lt.mp fun hlt => ?_
    obtain ⟨s, hs, hfault⟩ := hl.failed
    obtain ⟨s', value, hs', hvalue⟩ := hk.succeeded l hlt
    obtain rfl := Option.some.inj (hs.symm.trans hs')
    exact nomatch hfault.symm.trans hvalue
  obtain rfl := Nat.le_antisymm (hle hk hl) (hle hl hk)
  obtain ⟨s, hs, hfault⟩ := hk.failed
  obtain ⟨s', hs', hother⟩ := hl.failed
  obtain rfl := Option.some.inj (hs.symm.trans hs')
  exact ⟨rfl, Except.error.inj (hfault.symm.trans hother)⟩

/-- If the outcomes of all jobs together are values, every job ends with one. -/
theorem ok_of_mapM_outcome {values : List γ} (h : started.mapM Start.outcome = .ok values)
    {s : Start β γ} (hs : s ∈ started) : ∃ value, s.outcome = .ok value := by
  have hmem := List.mem_map_of_mem (f := Start.outcome) hs
  rw [mapM_eq_ok_iff.mp h] at hmem
  obtain ⟨value, -, hvalue⟩ := List.mem_map.mp hmem
  exact ⟨value, hvalue.symm⟩

/-- If some job fails, some job is the first to. -/
theorem exists_firstFailed_of_mem {s : Start β γ} {fault : Fault} (hs : s ∈ started)
    (hfault : s.outcome = .error fault) : ∃ k found, FirstFailed started k found := by
  cases hvalues : started.mapM Start.outcome with
  | error found =>
      obtain ⟨k, hfirst⟩ := exists_firstFailed hvalues
      exact ⟨k, found, hfirst⟩
  | ok values =>
      obtain ⟨value, hvalue⟩ := ok_of_mapM_outcome hvalues hs
      exact nomatch hfault.symm.trans hvalue

namespace Account

variable {jobs : List β} {ended : Windowed σ γ}

/-- **The first fault counts**: a run in which some jobs fail ends with the fault of the first of
them, in the order of the jobs. -/
theorem outcome_of_first (h : Account start limit origin jobs started ended) {k : Nat}
    {fault : Fault} (hfirst : FirstFailed started k fault) : ended.outcome = .error fault := by
  rw [h.outcome_eq]
  cases hvalues : started.mapM Start.outcome with
  | error found =>
      obtain ⟨l, hother⟩ := exists_firstFailed hvalues
      rw [(hfirst.unique hother).2]
  | ok values =>
      obtain ⟨s, hs, hfault⟩ := hfirst.failed
      obtain ⟨value, hvalue⟩ := ok_of_mapM_outcome hvalues (List.mem_of_getElem? hs)
      exact nomatch hfault.symm.trans hvalue

/-- A later job that fails earlier in time does not count. -/
example :
    (run (fun _ _ (job : Nat × Fault) (_ : Unit) =>
      (({ outcome := .error job.2, millis := job.1 } : Answer Nat), ())) 2
      [(5, .cancelled), (1, .timeout "late")] ()).outcome = .error .cancelled := rfl

/-- No job is started that would not find a place beside the first one that fails. -/
theorem length_le_of_first (h : Account start limit origin jobs started ended)
    (hlimit : 0 < limit) {k : Nat} {fault : Fault} (hfirst : FirstFailed started k fault) :
    started.length ≤ k + limit := by
  refine Nat.not_lt.mp fun hlt => ?_
  obtain ⟨s, hs, hfault⟩ := hfirst.failed
  obtain ⟨-, value, hvalue⟩ := h.course.room_of_start hs (List.getElem?_eq_getElem hlt)
    (Nat.le_refl _) hlimit
  exact nomatch hfault.symm.trans hvalue

/-- A job is started unless one before it fails. -/
theorem exists_start (h : Account start limit origin jobs started ended) {j : Nat}
    (hj : j < jobs.length)
    (hbefore : ∀ i < j, ∀ s, started[i]? = some s → ∃ value, s.outcome = .ok value) :
    ∃ s, started[j]? = some s := by
  cases houtcome : ended.outcome with
  | ok values =>
      rw [← h.complete values houtcome, List.length_map] at hj
      exact ⟨_, List.getElem?_eq_getElem hj⟩
  | error fault =>
      obtain ⟨k, hfirst⟩ := exists_firstFailed (h.outcome_eq.symm.trans houtcome)
      obtain ⟨s, hs, hfault⟩ := hfirst.failed
      have hle : j ≤ k := Nat.not_lt.mp fun hlt => by
        obtain ⟨value, hvalue⟩ := hbefore k hlt s hs
        exact nomatch hfault.symm.trans hvalue
      have hk := (List.getElem?_eq_some_iff.mp hs).1
      exact ⟨_, List.getElem?_eq_getElem (Nat.lt_of_le_of_lt hle hk)⟩

/-- If every job that was started ends with its value, the values of all jobs are handed on in
their order. -/
theorem outcome_of_all (h : Account start limit origin jobs started ended) {value : β → γ}
    (hall : ∀ s ∈ started, s.outcome = .ok (value s.job)) :
    ended.outcome = .ok (jobs.map value) := by
  have hvalues : ended.outcome = .ok ((started.map Start.job).map value) := by
    rw [h.outcome_eq, mapM_eq_ok_iff, List.map_map, List.map_map]
    exact List.map_congr_left hall
  rwa [h.complete _ hvalues] at hvalues

/-- **A single job** is started once, and its outcome is that of the run. -/
theorem of_single {job : β} (h : Account start limit origin [job] started ended) :
    let given := start 0 1 job origin
    ended.state = given.2 ∧ ended.outcome = given.1.outcome.map ([·]) := by
  obtain ⟨s, hs⟩ := h.exists_start (j := 0) Nat.one_pos fun i hi => absurd hi (Nat.not_lt_zero i)
  have hsingle : started = [s] := by
    have hle := h.jobs_le.length_le
    rw [List.length_map, List.length_singleton] at hle
    obtain ⟨hpos, rfl⟩ := List.getElem?_eq_some_iff.mp hs
    exact List.eq_getElem_of_length_eq_one started (Nat.le_antisymm hle hpos)
  obtain ⟨hanswer, hstate⟩ := h.course.of_singleton hsingle
  have hjob : s.job = job := by
    have := h.jobs_le
    rw [hsingle] at this
    simpa using this
  subst hjob
  refine ⟨hstate, ?_⟩
  rw [h.outcome_eq, hsingle, ← hanswer]
  cases houtcome : s.answer.outcome with
  | ok value | error fault =>
      simp only [List.mapM_cons, List.mapM_nil, Start.outcome, houtcome]
      rfl

end Account

end Window

/-! ### The batches of a query -/

namespace Query

open Window

/-- **The order of the batches** of a query, whatever the client answers to each of them and however
long it takes.

They are started in the order of the calls, and a batch only after those that it would find no place
beside have ended with results. At every moment of the run (`steps`) the batches that have been
started are those whose results have been handed on, in order, and at most `limit` more.

If some of them fail, the query ends with the fault of the first of these in the order of the
calls; no batch is started that would not find a place beside that one. A batch is kept from being
started only by one before it that fails. -/
theorem order_of_batched [Wording] (settings : QuerySettings) (block : Execution.BlockId)
    (batchSize : Nat) (client : Client σ) (calls : List ContractCall) (state : σ) :
    let size := max batchSize 1
    let limit := max settings.limit 1
    let work := send settings.contract block client
    let ended := batched settings block batchSize client calls state
    ∃ started : List (Start (List ContractCall) (List CallResult)),
      Course work limit state started ended.state ∧
      started.Pairwise (·.instant ≤ ·.instant) ∧
      (∀ j s, started[j]? = some s → size * j < calls.length ∧ s.job = batch size calls j) ∧
      (∀ i j earlier later, started[i]? = some earlier → started[j]? = some later →
        i + limit ≤ j →
          earlier.arrival ≤ later.instant ∧ ∃ results, earlier.outcome = .ok results) ∧
      (∀ steps, ∃ handed running, handed ++ running <+: started ∧
        Snapshot work limit state handed running
          (Window.runFor work steps { limit, pending := chunks batchSize calls } state)) ∧
      ((∃ s ∈ started, ∃ fault, s.outcome = .error fault) →
        ∃ k fault, FirstFailed started k fault ∧ ended.outcome = .error fault ∧
          started.length ≤ k + limit) ∧
      ∀ j, size * j < calls.length →
        (∀ i < j, ∀ s, started[i]? = some s → ∃ results, s.outcome = .ok results) →
          ∃ s, started[j]? = some s := by
  intro size limit work ended
  have hlimit : 0 < limit := Nat.le_max_right settings.limit 1
  obtain ⟨started, haccount, hmoments⟩ :=
    snapshots_of_run work settings.limit (chunks batchSize calls) state
  refine ⟨started, haccount.course, haccount.course.sorted, fun j s hs => job_of_start haccount hs,
    fun i j earlier later hearlier hlater hapart =>
      haccount.course.room_of_start hearlier hlater hapart hlimit, hmoments, ?_, ?_⟩
  · rintro ⟨s, hs, fault, hfault⟩
    obtain ⟨k, found, hfirst⟩ := exists_firstFailed_of_mem hs hfault
    refine ⟨k, found, hfirst, ?_, haccount.length_le_of_first hlimit hfirst⟩
    simp only [ended, batched, runBatches]
    rw [haccount.outcome_of_first hfirst]
    rfl
  · intro j hj hbefore
    exact haccount.exists_start ((lt_length_chunks_iff batchSize calls j).mpr hj) hbefore

end Query

end NodeGateway
