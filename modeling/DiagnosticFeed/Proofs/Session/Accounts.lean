import DiagnosticFeed.Proofs.Session.Books
import DiagnosticFeed.Proofs.Session.Snapshots
import Mathlib.Algebra.GroupWithZero.Nat

/-!
# Every attempt is accounted for

The books of a session are kept in many places, and attempts interleave. Still they balance. In
every state, the runs in flight are the attempts that wait for the analyzer. And when no attempt is
under way, every attempt that began was timed, every run came to a publication, to a stale result or
to nothing since the analyzer broke off, and every call of the analyzer started a run or failed in a
way that was noticed.

The invariant `Balanced` says the same of all states, with what is not settled yet on the other
side: attempts under way, runs that may still bring an answer, calls that may still fail. A step
moves one attempt from one stage to another, so it is enough to balance what it enters in the books
against these two stages.
-/

namespace DiagnosticFeed

namespace Stage

/-- Whether the analyzer breaks off while an attempt waits for it. -/
def losesRun : Stage → Bool
  | .running _ _ _ run _ _ => run.waitFault.isSome
  | _ => false

/-- Whether starting the analyzer breaks, by other than a refusal of the operating system. -/
def breaksStart : Stage → Bool
  | .spawning _ _ _ _ directory (some e) => decide (Client.refusal directory e = .unforeseen)
  | _ => false

/-- Whether a run has started and what comes of it is not settled. -/
def owes : Stage → Bool
  | .running .. | .cleaning _ _ _ (.ok (some _)) => true
  | _ => false

/-- Whether an attempt will not wait for the analyzer any more. -/
def isThrough : Stage → Bool
  | .cleaning .. | .ended .. | .settled .. => true
  | _ => false

end Stage

namespace Session

/-! ## Steps that are counted -/

/-- The attempt that takes a step, with an action, from a stage of some kind. -/
def leaver? (s : Session) (kind : Stage → Bool) : Action → Option Nat
  | .step i =>
    if (s.attempt? i).any fun a ↦
      kind a.stage && s.canStep a && (s.documents[a.doc]?).isSome
    then some i else none
  | _ => none

/-- The attempts that take a step from a stage of some kind, in some actions. -/
def leavers (s : Session) (kind : Stage → Bool) : List Action → List Nat
  | [] => []
  | e :: acts => (s.leaver? kind e).toList ++ (s.act e).leavers kind acts

/-- The attempts that the analyzer broke off for. -/
def losses (s : Session) (acts : List Action) : List Nat :=
  s.leavers (·.losesRun) acts

def breaks (s : Session) (acts : List Action) : List Nat :=
  s.leavers (·.breaksStart) acts

section

variable {s s' : Session} {kind : Stage → Bool} {d : Document} {b : Begun} {t : Target}
  {o : Except Failure (Option Answer)} {snap : Option FilePath} {st st' : Stage} {i : Nat}
  {a : Attempt}

theorem leavers_concat (acts : List Action) (e : Action) :
    s.leavers kind (acts ++ [e]) =
      s.leavers kind acts ++ ((s.after acts).leaver? kind e).toList := by
  induction acts generalizing s with
  | nil => simp [leavers]
  | cons e' acts ih => rw [List.cons_append, leavers, ih, leavers, List.append_assoc, after_cons]

theorem leaver?_step (ha : s.attempt? i = some a) (hd : s.documents[a.doc]? = some d)
    (hcan : s.canStep a = true) :
    s.leaver? kind (.step i) = if kind a.stage then some i else none := by
  rw [leaver?, ha, Option.any_some, hd, hcan]
  simp

/-! ## What a step settles -/

/-- An answer is published, dropped, or kept for later; without one, nothing of this happens. -/
def Settles (answered : Bool) (st : Stage) : Prop :=
  answered.toNat = (answered && st.hasEnded && st.published?.isNone).toNat
    + st.published?.isSome.toNat + st.owes.toNat

theorem Ending.settles {r : Result} (h : Ending s d b t s' o r) :
    Settles (answerOf o).isSome (.ended (some b) r) := by
  cases h <;> rfl

theorem Following.settles (h : Following s d b t s' o snap st) :
    Settles (answerOf o).isSome st ∧ st.isRunning = false := by
  cases h with
  | toClean p kept =>
    match o with
    | .error e => exact ⟨rfl, rfl⟩
    | .ok none => exact ⟨rfl, rfl⟩
    | .ok (some answer) => exact ⟨rfl, rfl⟩
  | toEnd r ending => exact ⟨ending.settles, rfl⟩

theorem Calling.settles (h : Calling s d b t snap s' st) :
    Settles false st ∧ st.isRunning = false := by
  cases h with
  | pathless st empty following => exact following.settles
  | spawned run directory path kept => exact ⟨rfl, rfl⟩

/-- What is entered between two stages balances: a run that starts is owed for from then on, until
its answer is published or dropped, or the analyzer breaks off; and a call of the analyzer starts a
run, is refused or breaks. -/
structure Exchange (st st' : Stage) : Prop where
  runs : st'.isRunning.toNat + st.owes.toNat =
    (st.isAnswered && st'.hasEnded && st'.published?.isNone).toNat + st'.published?.isSome.toNat
      + st.losesRun.toNat + st'.owes.toNat
  calls : st'.isRunning.toNat + st.isRefused.toNat + st.breaksStart.toNat = st.isSpawning.toNat

/-- A step that starts no run settles what was owed for, as far as there is an answer. -/
theorem Exchange.of_settles (hsettles : Settles st.isAnswered st')
    (hrunning : st'.isRunning = false)
    (howes : st.owes.toNat = st.isAnswered.toNat + st.losesRun.toNat)
    (hcalls : st.isRefused.toNat + st.breaksStart.toNat = st.isSpawning.toNat) :
    Exchange st st' := by
  rw [Settles] at hsettles
  constructor
  · rw [hrunning, Bool.toNat_false]
    omega
  · rw [hrunning, Bool.toNat_false]
    omega

theorem refused_or_breaks (run : Run) (directory : Option String) (e : Failure) :
    (Stage.spawning b t snap run directory (some e)).isRefused.toNat
      + (Stage.spawning b t snap run directory (some e)).breaksStart.toNat = 1 := by
  by_cases h : Client.refusal directory e = .unforeseen <;>
    simp [Stage.isRefused, Stage.breaksStart, h]

theorem Ending.exchange {r : Result} (h : Ending s d b t s' o r) (p : FilePath) :
    Exchange (.cleaning b t p o) (.ended (some b) r) := by
  refine .of_settles ?_ rfl ?_ rfl
  · rw [isAnswered_cleaning]
    exact h.settles
  · match o with
    | .error e => rfl
    | .ok none => rfl
    | .ok (some answer) => rfl

theorem Following.exchange_spawning (h : Following s d b t s' o snap st) (ho : answerOf o = none)
    (run : Run) (directory : Option String) (e : Failure) :
    Exchange (.spawning b t snap run directory (some e)) st := by
  have hsettles := h.settles.1
  rw [ho] at hsettles
  exact .of_settles hsettles h.settles.2 rfl (refused_or_breaks run directory e)

/-- After a run, there is an answer unless the analyzer broke off. -/
theorem Following.exchange_running {run : Run} (h : Following s d b t s' o snap st)
    (ho : (answerOf o).isSome = run.waitFault.isNone) (due : Time) (order : Nat) :
    Exchange (.running b t snap run due order) st := by
  refine .of_settles ?_ h.settles.2 ?_ rfl
  · rw [Stage.isAnswered, ← ho]
    exact h.settles.1
  · cases hfault : run.waitFault <;> simp [Stage.owes, Stage.isAnswered, Stage.losesRun, hfault]

/-- **What a step enters balances.** -/
theorem Move.exchange (h : Move s d s' st st') : Exchange st st' := by
  cases h with
  | turnedDown off kept => exact ⟨rfl, rfl⟩
  | inPlace st on inPlace calling =>
    exact .of_settles calling.settles.1 calling.settles.2 rfl rfl
  | copy on copy kept => exact ⟨rfl, rfl⟩
  | noRoom b t p text e failed kept => exact ⟨rfl, rfl⟩
  | room b t p text disk made kept => exact ⟨rfl, rfl⟩
  | unwritten b t p text e disk failed kept => exact ⟨rfl, rfl⟩
  | written b t p text disk st written calling =>
    exact .of_settles calling.settles.1 calling.settles.2 rfl rfl
  | entered b t snap run directory kept => exact ⟨rfl, rfl⟩
  | missing b t snap run directory e st cause following =>
    exact following.exchange_spawning rfl run directory e
  | refused b t snap run directory e st cause following =>
    exact following.exchange_spawning rfl run directory e
  | broken b t snap run directory e st cause following =>
    exact following.exchange_spawning rfl run directory e
  | lost b t snap run due order message st fault following =>
    exact following.exchange_running (by rw [fault]; rfl) due order
  | answered b t snap run due order st fine following =>
    exact following.exchange_running (by rw [fine]; rfl) due order
  | cleaned b t p o disk notices r gone ending => exact ending.exchange p
  | uncleaned b t p o e r failed ending => exact ending.exchange p

/-! ## How many attempts are where -/

/-- How many attempts are in a stage of some kind. -/
def census (s : Session) (kind : Stage → Bool) : Nat :=
  s.attempts.countP fun a ↦ kind a.stage

/-- Another stage for one attempt moves one from one count to another. -/
theorem census_setStage (hids : (s.attempts.map Attempt.id).Nodup) (ha : s.attempt? i = some a)
    (hset : s'.attempts = (s.setStage i st).attempts) :
    s'.census kind + (kind a.stage).toNat = s.census kind + (kind st).toNat := by
  obtain ⟨before, behind, hsplit, hmoved⟩ := s.setStage_attempts st hids ha
  rw [census, hset, hmoved, census, hsplit]
  simp only [List.countP_append, List.countP_cons]
  cases kind a.stage <;> cases kind st <;> simp <;> omega

/-! ## What a step adds -/

theorem length_leavers_step (kind : Stage → Bool) {s₀ : Session} {acts : List Action}
    (ha : (s₀.after acts).attempt? i = some a) (hd : (s₀.after acts).documents[a.doc]? = some d)
    (hcan : (s₀.after acts).canStep a = true) :
    (s₀.leavers kind (acts ++ [.step i])).length =
      (s₀.leavers kind acts).length + (kind a.stage).toNat := by
  rw [leavers_concat, leaver?_step ha hd hcan]
  cases kind a.stage <;> simp

theorem publications_step {s₀ : Session} {acts : List Action}
    (ha : (s₀.after acts).attempt? i = some a) (hcan : (s₀.after acts).canStep a = true)
    (hst : ((s₀.after acts).step i).attempt? i = some { a with stage := st }) :
    (s₀.publications (acts ++ [.step i])).length =
        (s₀.publications acts).length + st.published?.isSome.toNat ∧
      ((s₀.publications (acts ++ [.step i])).map (·.diagnostics.length)).sum =
        ((s₀.publications acts).map (·.diagnostics.length)).sum + st.shownCount := by
  rw [publications_concat, publication?_step ha hcan hst, Stage.shownCount]
  cases st.published? <;> simp

/-- Only steps change how many attempts are in a stage of a kind that is not touched by creating an
attempt, nor by making its end known. -/
theorem census_act {s₀ : Session} (h₀ : s₀.attempts = []) (acts : List Action) {e : Action}
    (he : ∀ i, e ≠ .step i) (hcreated : kind .created = false)
    (hsettled : ∀ b r, kind (.settled b r) = kind (.ended b r)) :
    ((s₀.after acts).act e).census kind = (s₀.after acts).census kind := by
  rcases (s₀.after acts).attempts_act e with
    hsame | ⟨doc, origin, hnew, -⟩ | ⟨a, st, ha, hset, hprogress⟩
  · rw [census, hsame, census]
  · rw [census, hnew, List.countP_append, List.countP_singleton, hcreated]
    rfl
  · have hcensus : ((s₀.after acts).act e).census kind + (kind a.stage).toNat =
        (s₀.after acts).census kind + (kind st).toNat :=
      census_setStage (nodup_ids h₀ acts) ha hset
    cases hprogress with
    | idle => omega
    | moved d st step document can move => exact absurd step (he a.id)
    | settled b r settle ended =>
      rw [ended, hsettled] at hcensus
      omega

/-! ## The invariant -/

/-- The books of a session balance, with what is not settled yet. -/
structure Balanced (s₀ : Session) (acts : List Action) : Prop where
  inFlight : (s₀.after acts).books.inFlight = (s₀.after acts).census (·.isRunning)
  timed : (s₀.after acts).books.timed + (s₀.after acts).census (·.isUnderWay) =
    (s₀.after acts).census (·.begun?.isSome)
  runs : (s₀.after acts).books.runs = (s₀.after acts).books.discarded
    + (s₀.publications acts).length + (s₀.losses acts).length + (s₀.after acts).census (·.owes)
  calls : (s₀.after acts).books.runs + (s₀.after acts).books.refused + (s₀.breaks acts).length
    + (s₀.after acts).census (·.isSpawning) = (s₀.after acts).books.calls
  shown : (s₀.after acts).books.shown =
    ((s₀.publications acts).map fun p ↦ p.diagnostics.length).sum

theorem Balanced.of_silent {s₀ : Session} {acts : List Action} {e : Action}
    (h : Balanced s₀ acts) (hbooks : ((s₀.after acts).act e).books = (s₀.after acts).books)
    (hcensus : ∀ kind : Stage → Bool, kind .created = false →
      (∀ b r, kind (.settled b r) = kind (.ended b r)) →
      ((s₀.after acts).act e).census kind = (s₀.after acts).census kind)
    (hpublication : (s₀.after acts).publication? e = none)
    (hleaver : ∀ kind, (s₀.after acts).leaver? kind e = none) : Balanced s₀ (acts ++ [e]) := by
  have hpublications : s₀.publications (acts ++ [e]) = s₀.publications acts := by
    rw [publications_concat, hpublication, Option.toList_none, List.append_nil]
  have hleavers : ∀ kind, s₀.leavers kind (acts ++ [e]) = s₀.leavers kind acts := by
    intro kind
    rw [leavers_concat, hleaver, Option.toList_none, List.append_nil]
  constructor <;> rw [after_concat, hbooks]
  · rw [hcensus _ rfl fun b r ↦ rfl]
    exact h.inFlight
  · rw [hcensus _ rfl fun b r ↦ rfl, hcensus _ rfl fun b r ↦ rfl]
    exact h.timed
  · rw [hcensus _ rfl fun b r ↦ rfl, hpublications, losses, hleavers]
    exact h.runs
  · rw [hcensus _ rfl fun b r ↦ rfl, breaks, hleavers]
    exact h.calls
  · rw [hpublications]
    exact h.shown

theorem isUnderWay_eq (st : Stage) :
    st.isUnderWay.toNat + (st.hasEnded && st.begun?.isSome).toNat = st.begun?.isSome.toNat := by
  cases st <;> simp [Stage.isUnderWay, Stage.hasEnded, Stage.begun?]

/-- **A step keeps the books balanced.** -/
theorem Balanced.step {s₀ : Session} (h₀ : s₀.attempts = []) {acts : List Action}
    (h : Balanced s₀ acts) (ha : (s₀.after acts).attempt? i = some a)
    (hd : (s₀.after acts).documents[a.doc]? = some d) (hcan : (s₀.after acts).canStep a = true) :
    Balanced s₀ (acts ++ [.step i]) := by
  obtain ⟨st, hattempts, hbooks⟩ := books_step ha hd hcan
  obtain ⟨st', hattempts', hmove⟩ := step_move ha hd hcan
  -- Both say which stage the attempt comes to.
  obtain rfl : st = st' := by
    have hfound := (attempt?_of_move ha hattempts).symm.trans (attempt?_of_move ha hattempts')
    exact congrArg Attempt.stage (Option.some.inj hfound)
  have hexchange := hmove.exchange
  have hended : a.stage.hasEnded = false := by
    cases hstage : a.stage.hasEnded with
    | false => rfl
    | true => cases hcan.symm.trans (canStep_of_hasEnded hstage)
  have hcensus : ∀ kind : Stage → Bool,
      ((s₀.after acts).act (.step i)).census kind + (kind a.stage).toNat =
        (s₀.after acts).census kind + (kind st).toNat :=
    fun kind ↦ census_setStage (nodup_ids h₀ acts) ha hattempts
  have hleavers := fun kind : Stage → Bool ↦ length_leavers_step kind ha hd hcan
  obtain ⟨hpublished, hshown⟩ := publications_step ha hcan (attempt?_of_move ha hattempts)
  have hbooks' : ((s₀.after acts).act (.step i)).books = _ := hbooks
  constructor <;> rw [after_concat, hbooks', Books.come, Books.left]
  · have hrunning := hcensus (·.isRunning)
    have hinFlight := h.inFlight
    dsimp only
    omega
  · have hbegun := hcensus (·.begun?.isSome)
    have hunderWay := hcensus (·.isUnderWay)
    have hbefore := isUnderWay_eq a.stage
    have hafter := isUnderWay_eq st
    have htimed := h.timed
    rw [hended, Bool.false_and, Bool.toNat_false] at hbefore
    dsimp only at hbegun hunderWay ⊢
    omega
  · have howes := hcensus (·.owes)
    have hlosses := hleavers (·.losesRun)
    have hruns := h.runs
    have hexchange := hmove.exchange.runs
    rw [losses] at hruns ⊢
    dsimp only at howes ⊢
    omega
  · have hspawning := hcensus (·.isSpawning)
    have hbreaks := hleavers (·.breaksStart)
    have hcalls := h.calls
    have hexchange := hmove.exchange.calls
    rw [breaks] at hcalls ⊢
    dsimp only at hspawning ⊢
    omega
  · have hsum := h.shown
    dsimp only
    omega

theorem leaver?_of_idle (hcannot : ∀ a d, s.attempt? i = some a → s.documents[a.doc]? = some d →
    s.canStep a = false) : s.leaver? kind (.step i) = none := by
  rw [leaver?]
  cases ha : s.attempt? i with
  | none => rfl
  | some a =>
    cases hd : s.documents[a.doc]? with
    | none => simp [hd]
    | some d => simp [hcannot a d ha hd]

/-- **In every run, the books balance.** -/
theorem balanced {s₀ : Session} (h₀ : s₀.Opened) (acts : List Action) : Balanced s₀ acts := by
  induction acts using List.reverseRecOn with
  | nil =>
    obtain ⟨disk, settings, documents, workspace, runs, rfl⟩ := h₀
    constructor <;> rfl
  | append_singleton acts e ih =>
    by_cases he : ∀ i, e ≠ .step i
    · refine ih.of_silent (uncounted_act _ he).books
        (fun kind hcreated hsettled ↦ census_act h₀.attempts_eq acts he hcreated hsettled) ?_ ?_
      · cases e <;> first | rfl | exact absurd rfl (he _)
      · intro kind
        cases e <;> first | rfl | exact absurd rfl (he _)
    · obtain ⟨i, rfl⟩ : ∃ i, e = .step i := by simpa using he
      rcases (s₀.after acts).step_eq_self_or i with ⟨hsame, hcannot⟩ | ⟨a, d, ha, hd, hcan⟩
      · refine ih.of_silent (congrArg books hsame) (fun kind _ _ ↦ congrArg (census · kind) hsame)
          (publication?_of_idle hsame) fun kind ↦ leaver?_of_idle hcannot
      · exact ih.step h₀.attempts_eq ha hd hcan

/-! ## Who lost a run -/

theorem Following.isThrough (h : Following s d b t s' o snap st) : st.isThrough = true := by
  cases h <;> rfl

theorem Move.isThrough (h : Move s d s' st st')
    (hst : st.isThrough = true ∨ st.losesRun = true) : st'.isThrough = true := by
  cases h with
  | lost b t snap run due order message st fault following => exact following.isThrough
  | answered b t snap run due order st fine following => exact following.isThrough
  | cleaned b t p o disk notices r gone ending => rfl
  | uncleaned b t p o e r failed ending => rfl
  | _ => simp [Stage.isThrough, Stage.losesRun] at hst

theorem Progress.isThrough {e : Action} (h : Progress s e a st) (ha : a.stage.isThrough = true) :
    st.isThrough = true := by
  cases h with
  | idle => exact ha
  | moved d st step document can move => exact move.isThrough (.inl ha)
  | settled b r settle ended => rfl

theorem leaver?_eq_some {e : Action} (h : s.leaver? kind e = some i) :
    e = .step i ∧ ∃ a d, s.attempt? i = some a ∧ s.documents[a.doc]? = some d ∧
      s.canStep a = true ∧ kind a.stage = true := by
  cases e with
  | step j =>
    rw [leaver?] at h
    split at h
    · next hany =>
      cases h
      obtain ⟨a, ha, hleaves⟩ := Option.any_eq_true _ _ |>.mp hany
      rw [Bool.and_eq_true, Bool.and_eq_true] at hleaves
      obtain ⟨⟨hkind, hcan⟩, hdocument⟩ := hleaves
      obtain ⟨d, hd⟩ := Option.isSome_iff_exists.mp hdocument
      exact ⟨rfl, a, d, ha, hd, hcan, hkind⟩
    · cases h
  | _ => cases h

/-- Who lost a run does not wait for the analyzer any more. -/
theorem isThrough_of_mem_losses {s₀ : Session} {acts : List Action} (hi : i ∈ s₀.losses acts) :
    ∃ a, (s₀.after acts).attempt? i = some a ∧ a.stage.isThrough = true := by
  induction acts using List.reverseRecOn with
  | nil => cases hi
  | append_singleton acts e ih =>
    rw [losses, leavers_concat, List.mem_append, Option.mem_toList] at hi
    rw [after_concat]
    rcases hi with hi | hi
    · obtain ⟨a, ha, hthrough⟩ := ih hi
      obtain ⟨st, hst, hprogress⟩ := attempt?_act ha e
      exact ⟨_, hst, hprogress.isThrough hthrough⟩
    · obtain ⟨rfl, a, d, ha, hd, hcan, hloses⟩ := leaver?_eq_some hi
      obtain ⟨st, hst, hmove⟩ := step_move ha hd hcan
      exact ⟨_, attempt?_of_move ha hst, hmove.isThrough (.inr hloses)⟩

/-- **Nobody loses two runs.** -/
theorem nodup_losses (s₀ : Session) (acts : List Action) : (s₀.losses acts).Nodup := by
  induction acts using List.reverseRecOn with
  | nil => exact List.nodup_nil
  | append_singleton acts e ih =>
    rw [losses, leavers_concat]
    cases hleaver : (s₀.after acts).leaver? (·.losesRun) e with
    | none =>
      rw [Option.toList_none, List.append_nil]
      exact ih
    | some i =>
      obtain ⟨-, a, d, ha, -, -, hloses⟩ := leaver?_eq_some hleaver
      have hfresh : i ∉ s₀.losses acts := by
        intro hi
        obtain ⟨a', ha', hthrough⟩ := isThrough_of_mem_losses hi
        cases ha.symm.trans ha'
        cases hstage : a.stage <;> simp [hstage, Stage.losesRun, Stage.isThrough] at hloses hthrough
      rw [Option.toList_some, ← List.concat_eq_append]
      exact ih.concat hfresh

/-! ## The accounts -/

/-- What the counters of a session say when no attempt is under way. -/
structure AtRest (s₀ : Session) (acts : List Action) (counted : Metrics Int) : Prop where
  /-- Nothing is in flight. -/
  inFlight : counted.inFlight.total [] = 0
  /-- Everyone who began was timed. -/
  timed : ((counted.durations.get? []).getD []).length =
    ((s₀.after acts).attempts.filter (·.stage.begun?.isSome)).length
  /-- What came of the runs: a stale result, a publication, or nothing since the analyzer broke
  off. -/
  runs : counted.runs.total [] =
    counted.discarded.total [] + (s₀.publications acts).length + (s₀.losses acts).length
  /-- What came of the calls: a run, a refusal that was counted, or a start that broke. -/
  calls : counted.runs.total []
    + counted.failures.total (Metrics.reason "not_found")
    + counted.failures.total (Metrics.reason "cwd")
    + counted.failures.total (Metrics.reason "spawn")
    + (s₀.breaks acts).length = (s₀.after acts).bench.journal.countP Event.isCall
  /-- How many diagnostics were published. -/
  published : counted.published.total [] =
    ((s₀.publications acts).map fun p ↦ p.diagnostics.length).sum

/-- Every attempt of a run is accounted for. -/
structure Accounts (s₀ : Session) (acts : List Action) : Prop where
  /-- In flight are those who wait for the analyzer. -/
  waiting : (s₀.after acts).bench.metrics.inFlight.total [] =
    ((s₀.after acts).attempts.filter (·.stage.isRunning)).length
  /-- Everyone for whom the analyzer broke off is counted once. -/
  once : (s₀.losses acts).Nodup
  /-- The counters balance whenever no attempt is under way. -/
  atRest : (∀ a ∈ (s₀.after acts).attempts, a.stage.isUnderWay = false) →
    AtRest s₀ acts (s₀.after acts).bench.metrics

theorem census_eq_zero (h : ∀ a ∈ s.attempts, a.stage.isUnderWay = false)
    (hkind : ∀ st : Stage, st.isUnderWay = false → kind st = false) : s.census kind = 0 := by
  rw [census, List.countP_eq_zero]
  intro a ha
  rw [hkind a.stage (h a ha)]
  exact Bool.false_ne_true

theorem idle_of_isUnderWay {st : Stage} (h : st.isUnderWay = false) :
    st.isRunning = false ∧ st.isSpawning = false ∧ st.owes = false := by
  cases st <;> first | exact ⟨rfl, rfl, rfl⟩ | cases h

/-- **Every attempt is accounted for**, in every run of a session: the runs in flight are always the
attempts that wait for the analyzer, and when no attempt is under way, the counters balance. -/
theorem accounts {s₀ : Session} (h₀ : s₀.Opened) (acts : List Action) : Accounts s₀ acts := by
  have h := balanced h₀ acts
  refine ⟨?_, nodup_losses s₀ acts, fun hrest ↦ ?_⟩
  · rw [← List.countP_eq_length_filter]
    exact h.inFlight
  · have hrunning : (s₀.after acts).census (·.isRunning) = 0 :=
      census_eq_zero hrest fun st hst ↦ (idle_of_isUnderWay hst).1
    have hspawning : (s₀.after acts).census (·.isSpawning) = 0 :=
      census_eq_zero hrest fun st hst ↦ (idle_of_isUnderWay hst).2.1
    have howes : (s₀.after acts).census (·.owes) = 0 :=
      census_eq_zero hrest fun st hst ↦ (idle_of_isUnderWay hst).2.2
    have hunderWay : (s₀.after acts).census (·.isUnderWay) = 0 :=
      census_eq_zero hrest fun st hst ↦ hst
    have hinFlight := h.inFlight
    have htimed := h.timed
    have hruns := h.runs
    have hcalls := h.calls
    rw [hrunning] at hinFlight
    rw [hunderWay] at htimed
    rw [howes] at hruns
    rw [hspawning] at hcalls
    constructor
    · exact hinFlight
    · rw [← List.countP_eq_length_filter]
      simp only [books] at htimed
      rw [census] at htimed
      omega
    · simp only [books] at hruns
      omega
    · simp only [books] at hcalls
      omega
    · exact h.shown

end

/-! Five attempts that end in different ways: a start is refused, a start breaks, a process is lost,
findings are published, and a result is stale. -/

def variedSample : Session :=
  open_ ⟨⟨.root, ["w"]⟩, [], [], []⟩ {} [sampleDocument, otherDocument] none
    [{ startFault := some .denied }, { startFault := some .breaks }, { waitFault := some "boom" },
      { stdout := fun _ ↦ .text oneFinding }, {}]

def variedRun : List Action :=
  [.call 0, .call 0, .call 0, .call 0, .call 1, .step 0, .step 1, .step 2, .step 3, .step 4,
    .step 0, .step 1, .step 2, .step 3, .step 4, .edit 1 "z", .step 2, .step 3, .step 4]

/-- Of five calls, three start runs, and these come to three different ends. -/
theorem accounts_sample : variedSample.Opened ∧ Accounts variedSample variedRun ∧
    AtRest variedSample variedRun (variedSample.after variedRun).bench.metrics ∧
    (variedSample.after variedRun).books =
      { calls := 5, runs := 3, inFlight := 0, refused := 1, discarded := 1, shown := 1,
        timed := 5 } ∧
    (variedSample.publications variedRun).map (·.id) = [3] ∧
    variedSample.losses variedRun = [2] ∧ variedSample.breaks variedRun = [1] := by
  have hopened : variedSample.Opened := ⟨_, _, _, _, _, rfl⟩
  exact ⟨hopened, accounts hopened variedRun,
    (accounts hopened variedRun).atRest (by decide +kernel), by decide +kernel, by decide +kernel,
    by decide +kernel, by decide +kernel⟩

end Session

end DiagnosticFeed
