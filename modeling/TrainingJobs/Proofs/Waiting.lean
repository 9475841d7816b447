import TrainingJobs.Client.Commands

/-!
# How often a wait looks

A wait looks at its job until an answer ends it: a job that carries one of the conditions, or an
error. So what it does is told by the first answer that does not keep it waiting
(`run_poll_of_ends`), and if there is none among those that it has time for, by their number alone
(`run_poll_of_waits`). `wait_polls` puts the cases together.
-/

namespace TrainingJobs

/-! ## Programs one after the other -/

namespace Program

variable {ε α β : Type} {p : Program ε α} {f : α → Program ε β} {exhausted : Answer}
  {time : Instant} {answers : List Answer}

theorem pure_bind (x : α) (f : α → Program ε β) : (pure x : Program ε α) >>= f = f x := rfl

theorem run_bind_of_ok {x : α} (h : (p.run exhausted time answers).result = .ok x) :
    (p >>= f).run exhausted time answers =
      let r := p.run exhausted time answers
      let q := (f x).run exhausted time r.unused
      { requests := r.requests ++ q.requests
        printed := r.printed ++ q.printed
        rests := r.rests ++ q.rests
        result := q.result
        unused := q.unused } := by
  show (p.andThen _).run _ _ _ = _
  rw [run_andThen]
  simp only [h]

theorem run_bind_of_error {e : ε} (h : (p.run exhausted time answers).result = .error e) :
    (p >>= f).run exhausted time answers =
      let r := p.run exhausted time answers
      { requests := r.requests, printed := r.printed, rests := r.rests, result := .error e
        unused := r.unused } := by
  show (p.andThen _).run _ _ _ = _
  rw [run_andThen]
  simp only [h, run, List.append_nil]

end Program

/-- An answer that is no refusal brings what its text is read as. -/
theorem Answer.decode_of_read {α : Type} {read : Json → Option α} {a : Answer} {j : Json} {x : α}
    (hstatus : a.status < 400) (htext : json? a.body = some j) (hread : read j = some x) :
    a.decode read = .ok x := by
  have haccepted : a.accepted = .ok a.body := if_neg (by omega)
  unfold decode
  rw [haccepted]
  simp only [bind, Except.bind, htext, Option.bind_some, hread]

namespace Collection

variable {α : Type} {c : Collection α} {name : String} {exhausted : Answer} {time : Instant}
  {answers : List Answer}

def requestFor (c : Collection α) (name : String) : Request := { path := c.path ++ "/" ++ name }

/-- The object can be asked for: it has a name, and one that can stand in a path. -/
def CanAsk (c : Collection α) (name : String) : Prop :=
  name ≠ "" ∧ (c.requestFor name).isUsable = true

instance : Decidable (c.CanAsk name) := inferInstanceAs (Decidable (_ ∧ _))

theorem get_eq (hname : name ≠ "") : c.get name = Request.ask (c.requestFor name) c.read := by
  have hpath : c.pathTo name = pure (c.path ++ "/" ++ name) :=
    if_neg (by rwa [String.isEmpty_iff])
  unfold get
  rw [hpath, Program.pure_bind]
  rfl

theorem run_get (h : c.CanAsk name) :
    (c.get name).run exhausted time answers =
      { requests := [(c.requestFor name).arriving]
        result := (answers.head?.getD exhausted).decode c.read
        unused := answers.tail } := by
  have hsend : (c.requestFor name).exchange = Program.answer (c.requestFor name) := if_pos h.2
  rw [get_eq h.1, Request.ask, hsend]
  rfl

theorem run_get_of_not_canAsk (h : ¬ c.CanAsk name) (exhausted : Answer) (time : Instant)
    (answers : List Answer) :
    (c.get name).run exhausted time answers =
      { result := .error .unusable, unused := answers } := by
  by_cases hname : name = ""
  · rw [hname]
    rfl
  · have hsend : (c.requestFor name).exchange = Program.fail .unusable :=
      if_neg fun husable => h ⟨hname, husable⟩
    rw [get_eq hname, Request.ask, hsend]
    rfl

end Collection

namespace Client

variable {ns name : String} {expected : List ConditionType} {timeout interval : Span}
  {exhausted : Answer} {time : Instant} {answers : List Answer} {rounds k : Nat} {job : Job}

/-! ## What an answer says -/

/-- The job carries a condition of one of the types, whether it holds or not. -/
def Carries (job : Job) (expected : List ConditionType) : Prop :=
  ∃ s ∈ job.status, ∃ c ∈ s.conditions, c.type ∈ expected

theorem hasAnyCondition_iff : job.hasAnyCondition expected = true ↔ Carries job expected := by
  unfold Job.hasAnyCondition Carries
  cases job.status with
  | none => simp
  | some s => simp

/-- What the answer of this place says, the first at place 0; after the last of the answers they all
say the same. -/
def seen (exhausted : Answer) (answers : List Answer) (i : Nat) : Except ApiError Job :=
  ((answers[i]?).getD exhausted).decode Job.ofDocument?

theorem seen_tail (i : Nat) : seen exhausted answers.tail i = seen exhausted answers (i + 1) := by
  unfold seen
  rw [List.getElem?_tail]

/-- An answer that keeps one waiting: a job that carries none of the conditions. -/
def Waits (expected : List ConditionType) (answer : Except ApiError Job) : Prop :=
  ∃ job, answer = .ok job ∧ ¬ Carries job expected

theorem not_waits_error (e : ApiError) : ¬ Waits expected (.error e) :=
  fun ⟨_, h, _⟩ => nomatch h

theorem not_waits_of_carries (h : Carries job expected) : ¬ Waits expected (.ok job) := by
  rintro ⟨job', hjob, hnot⟩
  exact hnot (Except.ok.inj hjob ▸ h)

/-- The request by which a job is looked at, as it arrives. -/
def look (ns name : String) : Request := ((Collection.jobs ns).requestFor name).arriving

theorem arriving_method (r : Request) : r.arriving.method = r.method := by
  unfold Request.arriving
  dsimp only
  split <;> rfl

/-! ## Looking again and again -/

section Poll

variable (h : (Collection.jobs ns).CanAsk name)

include h

theorem run_look (exhausted : Answer) (time : Instant) (answers : List Answer) :
    ((Collection.jobs ns).get name).run exhausted time answers =
    { requests := [look ns name], result := seen exhausted answers 0, unused := answers.tail } := by
  rw [Collection.run_get h, List.head?_eq_getElem?]
  rfl

theorem run_poll_succ_of_ends (hends : ¬ Waits expected (seen exhausted answers 0)) :
    (poll ns name expected interval (rounds + 1)).run exhausted time answers =
      { requests := [look ns name]
        result := (seen exhausted answers 0).map some
        unused := answers.tail } := by
  have hlook := run_look h exhausted time answers
  unfold poll
  cases hseen : seen exhausted answers 0 with
  | error e =>
    rw [hseen] at hlook
    rw [Program.run_bind_of_error (e := e) (by rw [hlook]), hlook]
    rfl
  | ok job =>
    rw [hseen] at hlook hends
    have hcarries : job.hasAnyCondition expected = true := by
      rw [hasAnyCondition_iff]
      exact Classical.byContradiction fun hnot => hends ⟨job, rfl, hnot⟩
    rw [Program.run_bind_of_ok (x := job) (by rw [hlook]), hlook, if_pos hcarries]
    rfl

theorem run_poll_succ_of_waits (hwaits : Waits expected (seen exhausted answers 0)) :
    (poll ns name expected interval (rounds + 1)).run exhausted time answers =
      let r := (poll ns name expected interval rounds).run exhausted time answers.tail
      { r with requests := look ns name :: r.requests, rests := interval :: r.rests } := by
  obtain ⟨job, hjob, hnot⟩ := hwaits
  have hlook := run_look h exhausted time answers
  rw [hjob] at hlook
  rw [← hasAnyCondition_iff] at hnot
  conv => lhs; unfold poll
  rw [Program.run_bind_of_ok (x := job) (by rw [hlook]), hlook, if_neg hnot]
  rfl

/-- What is done up to the first answer that does not keep one waiting. -/
theorem run_poll_of_ends (hk : k < rounds)
    (hfront : ∀ i < k, Waits expected (seen exhausted answers i))
    (hends : ¬ Waits expected (seen exhausted answers k)) :
    (poll ns name expected interval rounds).run exhausted time answers =
      { requests := List.replicate (k + 1) (look ns name)
        rests := List.replicate k interval
        result := (seen exhausted answers k).map some
        unused := answers.drop (k + 1) } := by
  induction k generalizing rounds answers with
  | zero =>
    obtain ⟨rounds, rfl⟩ := Nat.exists_eq_succ_of_ne_zero (by omega : rounds ≠ 0)
    rw [run_poll_succ_of_ends h hends, List.drop_one]
    rfl
  | succ k ih =>
    obtain ⟨rounds, rfl⟩ := Nat.exists_eq_succ_of_ne_zero (by omega : rounds ≠ 0)
    rw [run_poll_succ_of_waits h (hfront 0 (by omega)), ih (by omega) ?_ ?_]
    · simp only [seen_tail, List.drop_tail]
      rfl
    · intro i hi
      rw [seen_tail]
      exact hfront (i + 1) (by omega)
    · rwa [seen_tail]

theorem run_poll_of_waits (hall : ∀ i < rounds, Waits expected (seen exhausted answers i)) :
    (poll ns name expected interval rounds).run exhausted time answers =
      { requests := List.replicate rounds (look ns name)
        rests := List.replicate rounds interval
        result := .ok none
        unused := answers.drop rounds } := by
  induction rounds generalizing answers with
  | zero => rfl
  | succ rounds ih =>
    rw [run_poll_succ_of_waits h (hall 0 (by omega)), ih ?_]
    · simp only [List.drop_tail]
      rfl
    · intro i hi
      rw [seen_tail]
      exact hall (i + 1) (by omega)

end Poll

theorem run_poll_of_not_canAsk (h : ¬ (Collection.jobs ns).CanAsk name) :
    (poll ns name expected interval (rounds + 1)).run exhausted time answers =
      { result := .error .unusable, unused := answers } := by
  have hget := Collection.run_get_of_not_canAsk h exhausted time answers
  unfold poll
  rw [Program.run_bind_of_error (e := .unusable) (by rw [hget]), hget]

/-- One answer is the first that does not keep one waiting, or all of them do. -/
theorem waits_or_ends (expected : List ConditionType) (answer : Nat → Except ApiError Job)
    (rounds : Nat) :
    (∀ i < rounds, Waits expected (answer i)) ∨
      ∃ k < rounds, (∀ i < k, Waits expected (answer i)) ∧ ¬ Waits expected (answer k) := by
  induction rounds with
  | zero => exact .inl fun i hi => absurd hi (Nat.not_lt_zero i)
  | succ rounds ih =>
    rcases ih with hall | ⟨k, hk, hfront, hends⟩
    · by_cases hlast : Waits expected (answer rounds)
      · exact .inl fun i hi => (Nat.lt_succ_iff_lt_or_eq.1 hi).elim (hall i) fun hi => hi ▸ hlast
      · exact .inr ⟨rounds, Nat.lt_succ_self rounds, hall, hlast⟩
    · exact .inr ⟨k, Nat.lt_succ_of_lt hk, hfront, hends⟩

/-! ## A wait -/

theorem pollRounds_pos (timeout interval : Span) : 1 ≤ (pollRounds timeout interval).toNat := by
  unfold pollRounds
  split
  · exact Nat.le_refl 1
  · simp only [max]
    split
    next hle => exact UInt64.le_iff_toNat_le.1 hle
    next => exact Nat.le_refl 1

/-- What a wait makes of what the looking came to. -/
def concluded (ns name : String) (expected : List ConditionType) :
    Except ApiError (Option Job) → Except ClientError Job
  | .ok (some job) => .ok job
  | .ok none => .error (.timeout name ns expected)
  | .error e => .error (.api e)

theorem run_wait :
    (wait ns name expected timeout interval).run exhausted time answers =
      let r := (poll ns name expected interval (pollRounds timeout interval).toNat).run exhausted
        time answers
      { requests := r.requests, printed := r.printed, rests := r.rests
        result := concluded ns name expected r.result, unused := r.unused } := by
  unfold wait Program.mapError Program.mapResult
  show (Program.andThen (Program.andThen _ _) _).run _ _ _ = _
  rw [Program.run_andThen, Program.run_andThen]
  generalize (poll ns name expected interval (pollRounds timeout interval).toNat).run exhausted
    time answers = r
  obtain ⟨requests, printed, rests, result, unused⟩ := r
  rcases result with e | _ | job
  · simp only [Program.run, List.append_nil, concluded]
  · simp only [Program.run, Program.fail, List.append_nil, concluded]
  · simp only [Program.run, pure, List.append_nil, concluded]

theorem run_wait_of_ends (h : (Collection.jobs ns).CanAsk name)
    (hk : k < (pollRounds timeout interval).toNat)
    (hfront : ∀ i < k, Waits expected (seen exhausted answers i))
    (hends : ¬ Waits expected (seen exhausted answers k)) :
    (wait ns name expected timeout interval).run exhausted time answers =
      { requests := List.replicate (k + 1) (look ns name)
        rests := List.replicate k interval
        result := concluded ns name expected ((seen exhausted answers k).map some)
        unused := answers.drop (k + 1) } := by
  rw [run_wait, run_poll_of_ends h hk hfront hends]

theorem run_wait_of_waits (h : (Collection.jobs ns).CanAsk name)
    (hall : ∀ i < (pollRounds timeout interval).toNat, Waits expected (seen exhausted answers i)) :
    (wait ns name expected timeout interval).run exhausted time answers =
      { requests := List.replicate (pollRounds timeout interval).toNat (look ns name)
        rests := List.replicate (pollRounds timeout interval).toNat interval
        result := .error (.timeout name ns expected)
        unused := answers.drop (pollRounds timeout interval).toNat } := by
  rw [run_wait, run_poll_of_waits h hall]
  rfl

theorem run_wait_of_not_canAsk (h : ¬ (Collection.jobs ns).CanAsk name) :
    (wait ns name expected timeout interval).run exhausted time answers =
      { result := .error (.api .unusable), unused := answers } := by
  obtain ⟨more, hmore⟩ := Nat.exists_eq_add_of_le' (pollRounds_pos timeout interval)
  rw [run_wait, hmore, run_poll_of_not_canAsk h]
  rfl

/-- A wait never looks more often than it has time for, and prints nothing. -/
theorem requests_run_wait_le (ns name : String) (expected : List ConditionType)
    (timeout interval : Span) (exhausted : Answer) (time : Instant) (answers : List Answer) :
    let r := (wait ns name expected timeout interval).run exhausted time answers
    r.requests.length ≤ (pollRounds timeout interval).toNat ∧ r.printed = [] := by
  intro r
  by_cases h : (Collection.jobs ns).CanAsk name
  · rcases waits_or_ends expected (seen exhausted answers) (pollRounds timeout interval).toNat with
      hall | ⟨k, hk, hfront, hnot⟩
    · have hr : r = _ := run_wait_of_waits h hall
      rw [hr]
      exact ⟨Nat.le_of_eq List.length_replicate, rfl⟩
    · have hr : r = _ := run_wait_of_ends h hk hfront hnot
      rw [hr]
      refine ⟨?_, rfl⟩
      rw [List.length_replicate]
      omega
  · have hr : r = _ := run_wait_of_not_canAsk h
    rw [hr]
    exact ⟨Nat.zero_le _, rfl⟩

/-- The command waits for the conditions that it names, or for the usual ones, and then asks
nothing more. -/
theorem Session.run_perform_wait {s : Session} {conditions : List ConditionType}
    {given every : Option Span} (hns : s.namespace_ = ns)
    (htimeout : span given s.config.timeout = pure timeout)
    (hinterval : span every s.config.interval = pure interval)
    (hexpected : expected = if conditions.isEmpty then usualConditions else conditions) :
    (s.perform (.wait name conditions given every)).run exhausted time answers =
      let r := (wait ns name expected timeout interval).run exhausted time answers
      { requests := r.requests, printed := r.printed, rests := r.rests
        result := r.result.map fun _ => true, unused := r.unused } := by
  have hperform : s.perform (.wait name conditions given every) =
      unasked (wait ns name expected timeout interval).forget := by
    show unasked (span given s.config.timeout >>= fun t => span every s.config.interval >>= fun i =>
      (wait s.namespace_ name (if conditions.isEmpty then usualConditions else conditions) t
        i).forget) = _
    rw [htimeout, hinterval, hns, ← hexpected, Program.pure_bind, Program.pure_bind]
  rw [hperform]
  show (Program.andThen (Program.andThen _ _) _).run _ _ _ = _
  rw [Program.run_andThen, Program.run_andThen]
  generalize (wait ns name expected timeout interval).run exhausted time answers = r
  obtain ⟨requests, printed, rests, result, unused⟩ := r
  cases result with
  | error e => simp only [Program.run, List.append_nil, Except.map]
  | ok job => simp only [Program.run, pure, List.append_nil, Except.map]

/-- **A wait looks exactly as often as it has to.** Let it have time for `rounds` looks, which is at
least one. It never asks more often. If the answers keep it waiting up to place `k`, and that answer
brings a job with one of the conditions, whatever its status, then it succeeds with that job; if the
answer is an error, then it fails with that error; both after `k + 1` looks at the job and a rest
after each of the `k` before. If all answers that it has time for keep it waiting, it fails and
names the job, the namespace and all the conditions. A job that cannot be asked for is never looked
at. The command waits so for the conditions that it names, or for the usual ones. -/
theorem wait_polls (ns name : String) (expected : List ConditionType) (timeout interval : Span)
    (exhausted : Answer) (time : Instant) (answers : List Answer) :
    let rounds := (pollRounds timeout interval).toNat
    let answer := seen exhausted answers
    let r := (wait ns name expected timeout interval).run exhausted time answers
    1 ≤ rounds ∧ r.requests.length ≤ rounds ∧ r.printed = [] ∧ (look ns name).method = .get ∧
    ((Collection.jobs ns).CanAsk name →
      (∀ k < rounds, (∀ i < k, Waits expected (answer i)) →
        (∀ job, answer k = .ok job → Carries job expected →
          r.result = .ok job ∧ r.requests = List.replicate (k + 1) (look ns name) ∧
            r.rests = List.replicate k interval) ∧
        (∀ e, answer k = .error e →
          r.result = .error (.api e) ∧ r.requests = List.replicate (k + 1) (look ns name) ∧
            r.rests = List.replicate k interval)) ∧
      ((∀ i < rounds, Waits expected (answer i)) →
        r.result = .error (.timeout name ns expected) ∧
          r.requests = List.replicate rounds (look ns name) ∧
          r.rests = List.replicate rounds interval)) ∧
    (¬ (Collection.jobs ns).CanAsk name →
      r.result = .error (.api .unusable) ∧ r.requests = [] ∧ r.rests = []) ∧
    ∀ (s : Session) (conditions : List ConditionType) (given every : Option Span),
      s.namespace_ = ns → Session.span given s.config.timeout = pure timeout →
      Session.span every s.config.interval = pure interval →
      (expected = if conditions.isEmpty then usualConditions else conditions) →
        (s.perform (.wait name conditions given every)).run exhausted time answers =
          { requests := r.requests, printed := r.printed, rests := r.rests
            result := r.result.map fun _ => true, unused := r.unused } := by
  intro rounds answer r
  obtain ⟨hbounded, hsilent⟩ :=
    requests_run_wait_le ns name expected timeout interval exhausted time answers
  refine ⟨pollRounds_pos timeout interval, hbounded, hsilent, arriving_method _, fun h =>
    ⟨fun k hk hfront => ⟨fun job hjob hcarries => ?_, fun e he => ?_⟩, fun hall => ?_⟩,
    fun h => ?_, fun s conditions given every hns ht hi hexpected =>
      Session.run_perform_wait hns ht hi hexpected⟩
  · have hends : ¬ Waits expected (answer k) := hjob ▸ not_waits_of_carries hcarries
    have hr : r = _ := run_wait_of_ends h hk hfront hends
    have hfound : seen exhausted answers k = .ok job := hjob
    rw [hr, hfound]
    exact ⟨rfl, rfl, rfl⟩
  · have hends : ¬ Waits expected (answer k) := he ▸ not_waits_error e
    have hr : r = _ := run_wait_of_ends h hk hfront hends
    have hfailed : seen exhausted answers k = .error e := he
    rw [hr, hfailed]
    exact ⟨rfl, rfl, rfl⟩
  · have hr : r = _ := run_wait_of_waits h hall
    rw [hr]
    exact ⟨rfl, rfl, rfl⟩
  · have hr : r = _ := run_wait_of_not_canAsk h
    rw [hr]
    exact ⟨rfl, rfl, rfl⟩

/-- A job of which nothing is told yet. -/
def idleAnswer : Answer where
  body := "\x7b\"metadata\":\x7b\x7d,\"spec\":\x7b\"replicaSpecs\":\x7b\x7d\x7d\x7d"

/-- A job that was running and is not running any more. -/
def retiredJob : Job where
  status := some { conditions := [{ type := .running, status := .false_ }] }

/-- The answer that brings it. -/
def retiredAnswer : Answer where
  body := "\x7b\"metadata\":\x7b\x7d,\"spec\":\x7b\"replicaSpecs\":\x7b\x7d\x7d,\"status\":"
    ++ "\x7b\"conditions\":[\x7b\"type\":\"Running\",\"status\":\"False\"\x7d]\x7d\x7d"

theorem decode_idleAnswer : idleAnswer.decode Job.ofDocument? = .ok {} := by
  have htext : Answer.json? idleAnswer.body =
      some (.obj [("metadata", .obj []), ("spec", .obj [("replicaSpecs", .obj [])])]) := by cbv
  exact Answer.decode_of_read (by decide) htext (by decide)

theorem decode_retiredAnswer : retiredAnswer.decode Job.ofDocument? = .ok retiredJob := by
  have htext : Answer.json? retiredAnswer.body =
      some (.obj [("metadata", .obj []), ("spec", .obj [("replicaSpecs", .obj [])]),
        ("status", .obj [("conditions",
          .arr [.obj [("type", .str "Running"), ("status", .str "False")]])])]) := by cbv
  exact Answer.decode_of_read (by decide) htext (by decide)

/-- A job that has been running is found at the last look, though it does not run any more. If
nothing is ever told of it, there is a rest after the last look, too. -/
theorem wait_polls_retired :
    let minutes : Span := .ofSeconds 600
    let seconds : Span := .ofSeconds 30
    let rounds := (pollRounds minutes seconds).toNat
    let w := wait "ml" "mnist" [.running] minutes seconds
    let answers := List.replicate (rounds - 1) idleAnswer ++ [retiredAnswer]
    let found := w.run idleAnswer (.ofSeconds 1714557600) answers
    let missed := w.run idleAnswer (.ofSeconds 1714557600) []
    (Collection.jobs "ml").CanAsk "mnist" ∧ Carries retiredJob [.running] ∧ 1 ≤ rounds ∧
      found.result = .ok retiredJob ∧ found.requests = List.replicate rounds (look "ml" "mnist") ∧
      found.rests = List.replicate (rounds - 1) seconds ∧
      missed.result = .error (.timeout "mnist" "ml" [.running]) ∧
      missed.requests = List.replicate rounds (look "ml" "mnist") ∧
      missed.rests = List.replicate rounds seconds := by
  intro minutes seconds rounds w answers found missed
  have hask : (Collection.jobs "ml").CanAsk "mnist" := by decide
  have hcarries : Carries retiredJob [.running] :=
    ⟨_, rfl, _, List.mem_cons_self, List.mem_cons_self⟩
  have hidle : Waits [.running] (.ok {}) := ⟨{}, rfl, fun ⟨_, hs, _⟩ => nomatch hs⟩
  obtain ⟨hpos, -, -, -, hfound, -⟩ := wait_polls "ml" "mnist" [.running] minutes seconds
    idleAnswer (.ofSeconds 1714557600) answers
  obtain ⟨-, -, -, -, hmissed, -⟩ := wait_polls "ml" "mnist" [.running] minutes seconds
    idleAnswer (.ofSeconds 1714557600) []
  have hfront : ∀ i < rounds - 1, seen idleAnswer answers i = .ok {} := by
    intro i hi
    have hplace : answers[i]? = some idleAnswer := by
      rw [List.getElem?_append_left (by rwa [List.length_replicate]),
        List.getElem?_replicate_of_lt hi]
    rw [seen, hplace]
    exact decode_idleAnswer
  have hlast : seen idleAnswer answers (rounds - 1) = .ok retiredJob := by
    have hplace : answers[rounds - 1]? = some retiredAnswer := by
      rw [List.getElem?_append_right (Nat.le_of_eq List.length_replicate),
        List.length_replicate, Nat.sub_self]
      rfl
    rw [seen, hplace]
    exact decode_retiredAnswer
  have hsilent : ∀ i < rounds, Waits [.running] (seen idleAnswer [] i) := by
    intro i _
    rw [show seen idleAnswer [] i = .ok {} from decode_idleAnswer]
    exact hidle
  obtain ⟨hjob, hlooks, hrests⟩ := ((hfound hask).1 (rounds - 1) (by omega)
    fun i hi => hfront i hi ▸ hidle).1 retiredJob hlast hcarries
  rw [Nat.sub_add_cancel hpos] at hlooks
  exact ⟨hask, hcarries, hpos, hjob, hlooks, hrests, (hmissed hask).2 hsilent⟩

end Client

end TrainingJobs
