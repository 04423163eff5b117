import DiagnosticFeed.Proofs.Paths
import DiagnosticFeed.Proofs.Session.Publication

/-!
# Attempts without obstacles

An attempt ends without publishing if it meets an obstacle: the snapshot cannot be written, the
analyzer is not started, or its run breaks. As long as it meets none and its document does not
change, each step leads to the next one, up to the answer of the analyzer. The way there goes
through a check for an empty path, which no document and no snapshot has.

The conditions are Boolean functions of a state and an attempt, so that for a given run they can be
looked up.
-/

namespace DiagnosticFeed

/-! ## Steps without obstacles -/

/-- Whether the next step of an attempt in this stage meets no obstacle: its snapshot can be
written, the executable is found, and the run ends without raising. -/
def Stage.isClear (s : Session) : Stage → Bool
  | .makingRoom _ _ p _ => (Snapshot.makeRoom s.bench.disk s.scratch p).isOk
  | .writing _ _ p text => (Snapshot.write s.bench.disk p text).isOk
  | .running _ _ _ run _ _ => run.waitFault.isNone
  | st => !st.missesExecutable

/-- Why the analyzer will not start in the next step of an attempt. -/
def Stage.startFailure? : Stage → Option Failure
  | .spawning _ _ _ _ _ failure => failure
  | _ => none

/-- An attempt that will publish for the document of a ticket if nothing changes: it holds this
ticket, or will capture it, and has not failed. -/
inductive Stage.OnTrack (ticket : Ticket) : Stage → Prop
  | created : OnTrack ticket .created
  | makingRoom (b : Begun) (t : Target) (p : FilePath) (text : String) (same : b.ticket = ticket)
    (path : t.path.isEmpty = false) : OnTrack ticket (.makingRoom b t p text)
  | writing (b : Begun) (t : Target) (p : FilePath) (text : String) (same : b.ticket = ticket)
    (path : t.path.isEmpty = false) : OnTrack ticket (.writing b t p text)
  | spawning (b : Begun) (t : Target) (snap : Option FilePath) (run : Run)
    (directory : Option String) (failure : Option Failure) (same : b.ticket = ticket) :
    OnTrack ticket (.spawning b t snap run directory failure)
  | running (b : Begun) (t : Target) (snap : Option FilePath) (run : Run) (due : Time) (order : Nat)
    (same : b.ticket = ticket) : OnTrack ticket (.running b t snap run due order)
  | cleaning (b : Begun) (t : Target) (p : FilePath) (answer : Answer) (same : b.ticket = ticket) :
    OnTrack ticket (.cleaning b t p (.ok (some answer)))

theorem Stage.OnTrack.isOpen {ticket : Ticket} {st : Stage} (h : st.OnTrack ticket) :
    st.isOpen = true := by
  cases h <;> rfl

namespace Session

/-- Whether the next step of an attempt meets no obstacle. -/
def isClear (s : Session) (id : Nat) : Bool :=
  (s.attempt? id).all (·.stage.isClear s)

/-- Whether the analyzer is not refused in the next step of an attempt, if this is one on a given
document. -/
def starts (doc : Nat) (s : Session) (id : Nat) : Bool :=
  (s.attempt? id).all fun a ↦ a.doc != doc || a.stage.startFailure?.isNone

/-- Whether each step among some actions meets a condition when it is taken. -/
def eachStep (ok : Session → Nat → Bool) (s : Session) : List Action → Bool
  | [] => true
  | .step id :: acts => ok s id && eachStep ok (s.step id) acts
  | e :: acts => eachStep ok (s.act e) acts

theorem eachStep_iff {ok : Session → Nat → Bool} {s : Session} {acts : List Action} :
    s.eachStep ok acts = true ↔
      ∀ past id future, acts = past ++ .step id :: future → ok (s.after past) id = true := by
  have hcons : ∀ {s : Session} {e : Action} {acts : List Action},
      (s.eachStep ok (e :: acts) = true ↔
        (∀ id, e = .step id → ok s id = true) ∧ (s.act e).eachStep ok acts = true) := by
    intro s e acts
    cases e <;> simp [eachStep, act]
  induction acts generalizing s with
  | nil => simp [eachStep]
  | cons e acts ih =>
    rw [hcons]
    constructor
    · rintro ⟨hfirst, hrest⟩ past id future hacts
      rcases List.cons_eq_append_iff.mp hacts with ⟨rfl, he⟩ | ⟨past', rfl, hacts'⟩
      · cases he
        exact hfirst id rfl
      · exact (ih.mp hrest) past' id future hacts'
    · intro hall
      refine ⟨?_, ih.mpr ?_⟩
      · rintro id rfl
        exact hall [] id acts rfl
      · rintro past id future rfl
        exact hall (e :: past) id future rfl

theorem not_missesExecutable_of_isClear {s : Session} {st : Stage} (h : st.isClear s = true) :
    st.missesExecutable = false := by
  cases st with
  | spawning b t snap run directory failure => simpa [Stage.isClear] using h
  | _ => rfl

theorem enabled_act {s : Session} (hon : s.enabled = true) (e : Action)
    (hclear : ∀ id, e = .step id → s.isClear id = true) : (s.act e).enabled = true := by
  rcases (s.onward_act e).enabled hon with ⟨id, rfl⟩ | hstill
  · rcases s.step_cases id with hsame | ⟨a, d, st, ha, -, -, -, hmove⟩
    · exact (congrArg enabled hsame).trans hon
    rcases hmove.outcome with ⟨b, t, answer, -, houtcome⟩ | ⟨-, -, hbare | ⟨hmisses, -⟩⟩
    · cases houtcome with
      | published answer st current published found => exact found.enabled hon
      | bare answer st old nothing bare => exact bare.enabled hon
    · exact hbare.enabled hon
    · have hfound := hclear id rfl
      rw [isClear, ha] at hfound
      rw [not_missesExecutable_of_isClear hfound] at hmisses
      cases hmisses
  · exact hstill

/-- Triggers stay turned on over a run in which the executable is found whenever it is to start. -/
theorem enabled_after {s : Session} (hon : s.enabled = true) {acts : List Action}
    (hclear : s.eachStep isClear acts = true) : (s.after acts).enabled = true := by
  rw [eachStep_iff] at hclear
  induction acts using List.reverseRecOn with
  | nil => exact hon
  | append_singleton acts e ih =>
    rw [after_concat]
    refine enabled_act (ih ?_) e ?_
    · rintro past id future rfl
      exact hclear past id (future ++ [e]) (by simp)
    · rintro id rfl
      exact hclear acts id [] rfl

section

variable {s s' : Session} {d : Document} {b : Begun} {t : Target} {snap : Option FilePath}
  {st st' : Stage}

theorem Calling.onTrack (h : Calling s d b t snap s' st) (hb : b.ticket = .capture d)
    (hpath : t.path.isEmpty = false) : st.OnTrack (.capture d) := by
  cases h with
  | pathless st empty following =>
    rw [hpath] at empty
    cases empty
  | spawned run directory path kept => exact .spawning b t snap run directory _ hb

/-- **An attempt on track stays on track**, step by step, until it has an answer. -/
theorem Move.onTrack (h : Move s d s' st st') (hst : st.OnTrack (.capture d))
    (hon : s.enabled = true) (hpath : ∀ p, d.path = some p → p.Proper)
    (hclear : st.isClear s = true) (hstarts : st.startFailure?.isNone = true) :
    st'.OnTrack (.capture d) ∨
      ∃ b t answer, st.answer? = some (b, t, answer) ∧ b.ticket = .capture d := by
  cases h with
  | turnedDown off kept =>
    rw [hon] at off
    cases off
  | inPlace st on inPlace calling =>
    -- A document that is analyzed in place has a path, and its text is not empty.
    refine Or.inl (calling.onTrack rfl ?_)
    rw [Snapshot.isInPlace, Bool.and_eq_true, Bool.and_eq_true] at inPlace
    obtain ⟨p, hp⟩ := Option.isSome_iff_exists.mp inPlace.1.1
    rw [Snapshot.inPlace, hp, String.isEmpty_eq_false_iff]
    exact (hpath p hp).toText_ne_empty
  | copy on copy kept =>
    refine Or.inl (.makingRoom _ _ _ _ rfl ?_)
    rw [Snapshot.copyAt, String.isEmpty_eq_false_iff]
    exact Snapshot.nextPath_toText_ne_empty s.scratch d.path
  | noRoom b t p text e failed kept =>
    rw [Stage.isClear, failed] at hclear
    cases hclear
  | room b t p text disk made kept =>
    cases hst with
    | makingRoom _ _ _ _ same path => exact Or.inl (.writing b t p text same path)
  | unwritten b t p text e disk failed kept =>
    rw [Stage.isClear, failed] at hclear
    cases hclear
  | written b t p text disk st written calling =>
    cases hst with
    | writing _ _ _ _ same path => exact Or.inl (calling.onTrack same path)
  | entered b t snap run directory kept =>
    cases hst with
    | spawning _ _ _ _ _ _ same => exact Or.inl (.running b t snap run _ _ same)
  | missing b t snap run directory e st cause following => cases hstarts
  | refused b t snap run directory e st cause following => cases hstarts
  | broken b t snap run directory e st cause following => cases hstarts
  | lost b t snap run due order message st fault following =>
    rw [Stage.isClear, fault] at hclear
    cases hclear
  | answered b t snap run due order st fine following =>
    cases hst with
    | running _ _ _ _ _ _ same =>
      cases following with
      | toClean p kept => exact Or.inl (.cleaning b t p _ same)
      | toEnd r ending =>
        exact Or.inr ⟨b, t, run.answer t.path, by simp [Stage.answer?, fine], same⟩
  | cleaned b t p o disk notices r gone ending =>
    cases hst with
    | cleaning _ _ _ answer same => exact Or.inr ⟨b, t, answer, rfl, same⟩
  | uncleaned b t p o e r failed ending =>
    cases hst with
    | cleaning _ _ _ answer same => exact Or.inr ⟨b, t, answer, rfl, same⟩

end

end Session

end DiagnosticFeed
