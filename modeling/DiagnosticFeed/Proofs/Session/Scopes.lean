import DiagnosticFeed.Proofs.Session.Availability

/-!
# Where attempts log

Attempts on several documents are under way at once, and each logs in a scope of its own. This
module says what a turn of an attempt, its step or its cancellation, does to scopes and to the
journal: it touches no scope but its own, and all that it logs is logged there. Whatever else
happens opens new scopes at most.
-/

namespace DiagnosticFeed

/-- Whether a notice names a document itself. -/
def Log.Notice.names (n : Log.Notice) : Bool :=
  Keyed.has n.record.fields "uri"

/-- An event that is logged, if it is, where a document may be bound, and names no other itself. -/
def Event.IsIn (bound : Option String) : Event → Prop
  | .logged b n => b = bound ∧ n.names = false
  | .spawned .. | .returned .. => True

namespace Log

/-- Nothing was bound in a scope since it was opened. -/
def Scope.Untouched (c : Scope) : Prop :=
  c.bound = c.inherited

end Log

namespace Session

/-! ## Turns of attempts

What is logged in a turn is logged in the scope of the attempt. -/

/-- `s'` is `s` with more in the journal, all of it logged where `bound` is bound. Neither attempts
nor scopes nor documents have changed. -/
structure Along (bound : Option String) (s s' : Session) : Prop where
  documents : s'.documents = s.documents
  attempts : s'.attempts = s.attempts
  host : s'.host = s.host
  scopes : s'.scopes = s.scopes
  next_le : s.next ≤ s'.next
  journal : ∃ new, s'.bench.journal = new ++ s.bench.journal ∧ ∀ ev ∈ new, ev.IsIn bound

theorem Along.refl (bound : Option String) (s : Session) : Along bound s s :=
  ⟨rfl, rfl, rfl, rfl, Nat.le_refl _, [], rfl, by simp⟩

theorem Along.trans {bound : Option String} {s s' s'' : Session} (h : Along bound s s')
    (h' : Along bound s' s'') : Along bound s s'' where
  documents := h'.documents.trans h.documents
  attempts := h'.attempts.trans h.attempts
  host := h'.host.trans h.host
  scopes := h'.scopes.trans h.scopes
  next_le := h.next_le.trans h'.next_le
  journal := by
    obtain ⟨new, hnew, hin⟩ := h.journal
    obtain ⟨new', hnew', hin'⟩ := h'.journal
    refine ⟨new' ++ new, by rw [hnew', hnew, List.append_assoc], ?_⟩
    intro ev hev
    rcases List.mem_append.mp hev with hev | hev
    · exact hin' ev hev
    · exact hin ev hev

theorem along_bench {bound : Option String} {s : Session} {bench : Bench} (new : Journal)
    (h : bench.journal = new ++ s.bench.journal) (hin : ∀ ev ∈ new, ev.IsIn bound) :
    Along bound s { s with bench := bench } :=
  ⟨rfl, rfl, rfl, rfl, Nat.le_refl _, new, h, hin⟩

theorem along_same {bound : Option String} {s : Session} (bench : Bench)
    (h : bench.journal = s.bench.journal) : Along bound s { s with bench := bench } :=
  along_bench [] h (by simp)

theorem along_log (s : Session) (bound : Option String) {n : Log.Notice} (h : n.names = false) :
    Along bound s (s.log bound n) :=
  along_bench [_] rfl (List.forall_mem_singleton.mpr ⟨rfl, h⟩)

theorem along_fail (s : Session) (bound : Option String) (reason : String) {n : Log.Notice}
    (h : n.names = false) :
    Along bound s ({ s with bench := s.bench.countFailure reason }.log bound n) :=
  along_bench [_] rfl (List.forall_mem_singleton.mpr ⟨rfl, h⟩)

theorem along_foldl_log (s : Session) (bound : Option String) {ns : List Log.Notice}
    (h : ∀ n ∈ ns, n.names = false) :
    Along bound s (ns.foldl (fun (s : Session) n ↦ s.log bound n) s) := by
  induction ns generalizing s with
  | nil => exact Along.refl bound s
  | cons n ns ih =>
    exact (along_log s bound (h n List.mem_cons_self)).trans
      (ih _ fun n' hn' ↦ h n' (List.mem_cons_of_mem n hn'))

/-- `s'` is `s` with attempt `i` in a stage that it is in after it has begun, and with more in the
journal, logged in its scope. If it has ended, nothing is bound there any more. -/
structure Comes (s : Session) (i : Nat) (st : Stage) (s' : Session) : Prop where
  documents : s'.documents = s.documents
  attempts : s'.attempts = (s.setStage i st).attempts
  begun : st.begun?.isSome = true
  host : s'.host = s.host
  scopes : s'.scopes = if st.hasEnded then s.scopes.unbind i else s.scopes
  next_le : s.next ≤ s'.next
  journal : ∃ new, s'.bench.journal = new ++ s.bench.journal ∧
    ∀ ev ∈ new, ev.IsIn (s.scopes.scope i).bound

section

variable {s s' s₁ : Session} {i : Nat} {st : Stage}

theorem Along.comes (h : Along (s.scopes.scope i).bound s s₁) (h' : Comes s₁ i st s') :
    Comes s i st s' where
  documents := h'.documents.trans h.documents
  attempts := by rw [h'.attempts, setStage, setStage, h.attempts]
  begun := h'.begun
  host := h'.host.trans h.host
  scopes := by rw [h'.scopes, h.scopes]
  next_le := h.next_le.trans h'.next_le
  journal := by
    obtain ⟨new, hnew, hin⟩ := h.journal
    obtain ⟨new', hnew', hin'⟩ := h'.journal
    rw [h.scopes] at hin'
    refine ⟨new' ++ new, by rw [hnew', hnew, List.append_assoc], ?_⟩
    intro ev hev
    rcases List.mem_append.mp hev with hev | hev
    · exact hin' ev hev
    · exact hin ev hev

theorem comes_setStage (s : Session) (i : Nat) (hbegun : st.begun?.isSome = true)
    (hopen : st.hasEnded = false) : Comes s i st (s.setStage i st) :=
  ⟨rfl, rfl, hbegun, rfl, by rw [hopen]; rfl, Nat.le_refl _, [], rfl, by simp⟩

theorem comes_finish (s : Session) (a : Attempt) (b : Begun) (r : Result) :
    Comes s a.id (.ended (some b) r) (s.finish a (some b) r) :=
  ⟨rfl, rfl, rfl, rfl, rfl, Nat.le_refl _, [], rfl, by simp⟩

end

section

variable (s : Session) (a : Attempt) (d : Document) (b : Begun) (t : Target)
  (snap : Option FilePath) (o : Except Failure (Option Answer)) (p : FilePath) (text : String)

theorem along_noteAnswer (bound : Option String) (answer : Answer) :
    Along bound s (s.noteAnswer bound answer) := by
  have hstderr : Along bound s (if (Text.trimmed answer.stderr).isEmpty then s
      else s.log bound (.errorOutput (Text.trimmed answer.stderr))) := by
    split
    · exact Along.refl bound s
    · exact along_log s bound rfl
  rw [noteAnswer]
  split
  · exact hstderr.trans (along_fail _ bound _ rfl)
  · exact hstderr

theorem along_publish (bound : Option String) (version : Int) (stdout : String) :
    Along bound s (s.publish bound d version t stdout).1 := by
  rw [publish]
  cases h : (s.read d t stdout).failure <;> rw [read] at h <;> simp only [h]
  · exact ⟨rfl, rfl, rfl, rfl, Nat.le_refl _, [_], rfl, List.forall_mem_singleton.mpr ⟨rfl, rfl⟩⟩
  · exact ⟨rfl, rfl, rfl, rfl, Nat.le_refl _, [_, _], rfl,
      List.forall_mem_cons.mpr ⟨⟨rfl, rfl⟩, List.forall_mem_singleton.mpr ⟨rfl, rfl⟩⟩⟩

theorem along_discard (bound : Option String) (ticket : Ticket) :
    Along bound s (s.discard bound d ticket) :=
  along_bench [_] rfl (List.forall_mem_singleton.mpr ⟨rfl, rfl⟩)

theorem along_missExecutable (bound : Option String) (e : Failure) :
    Along bound s { s with bench := s.bench.missExecutable bound e } := by
  cases htold : s.bench.client.told <;> simp only [Bench.missExecutable, htold]
  · exact along_bench [_, _] rfl
      (List.forall_mem_cons.mpr ⟨⟨rfl, rfl⟩, List.forall_mem_singleton.mpr ⟨rfl, rfl⟩⟩)
  · exact along_bench [_] rfl (List.forall_mem_singleton.mpr ⟨rfl, rfl⟩)

theorem comes_conclude : ∃ st, Comes s a.id st (s.conclude a d b t o) := by
  match o with
  | .error e => exact ⟨_, comes_finish s a b (.error e)⟩
  | .ok none => exact ⟨_, comes_finish s a b (.ok none)⟩
  | .ok (some answer) =>
    rw [conclude]
    split
    · have hnoted := along_noteAnswer s (s.boundIn a) answer
      have hpublished := along_publish (s.noteAnswer (s.boundIn a) answer) d t (s.boundIn a)
        b.ticket.version answer.stdout
      exact ⟨_, (hnoted.trans hpublished).comes (comes_finish _ a b _)⟩
    · exact ⟨_, (along_discard s d (s.boundIn a) b.ticket).comes (comes_finish _ a b _)⟩

theorem comes_afterRun : ∃ st, Comes s a.id st (s.afterRun a d b t snap o) := by
  cases snap with
  | some p => exact ⟨_, comes_setStage s a.id rfl rfl⟩
  | none => exact comes_conclude s a d b t o

theorem comes_launch : ∃ st, Comes s a.id st (s.launch a d b t snap) := by
  rw [launch]
  split
  · exact comes_afterRun s a d b t snap _
  · let directory := (t.directory? (s.rootOf d)).map FilePath.toText
    have hannounced : Along (s.boundIn a) s
        { s with bench := (s.bench.announce s.now (s.boundIn a) t.path directory).2 } :=
      along_bench [_, _] rfl
        (List.forall_mem_cons.mpr ⟨trivial, List.forall_mem_singleton.mpr ⟨rfl, rfl⟩⟩)
    exact ⟨_, hannounced.comes (comes_setStage _ a.id rfl rfl)⟩

theorem comes_enter (run : Run) (directory : Option String) (failure : Option Failure) :
    ∃ st, Comes s a.id st (s.enter a d b t snap run directory failure) := by
  cases failure with
  | none =>
    let bench := (s.bench.takeUp (s.boundIn a) directory run none).2
    have hstarted : Along (s.boundIn a) s { s with bench := bench, next := s.next + 1 } :=
      ⟨rfl, rfl, rfl, rfl, Nat.le_succ _, [], rfl, by simp⟩
    exact ⟨_, hstarted.comes (comes_setStage _ a.id rfl rfl)⟩
  | some e =>
    rw [enter, Bench.takeUp, Bench.refuse]
    cases Client.refusal directory e with
    | executableMissing =>
      obtain ⟨st, hst⟩ := comes_afterRun
        { s with bench := s.bench.missExecutable (s.boundIn a) e } a d b t snap (.ok none)
      exact ⟨st, (along_missExecutable s (s.boundIn a) e).comes hst⟩
    | directoryMissing =>
      obtain ⟨st, hst⟩ := comes_afterRun ({ s with bench := s.bench.countFailure "cwd" }.log
        (s.boundIn a) (.directoryMissing (directory.getD "") e.message)) a d b t snap (.ok none)
      exact ⟨st, (along_fail s (s.boundIn a) "cwd" rfl).comes hst⟩
    | other =>
      obtain ⟨st, hst⟩ := comes_afterRun ({ s with bench := s.bench.countFailure "spawn" }.log
        (s.boundIn a) (.spawnFailed s.bench.client.executable e.message)) a d b t snap (.ok none)
      exact ⟨st, (along_fail s (s.boundIn a) "spawn" rfl).comes hst⟩
    | unforeseen => exact comes_afterRun s a d b t snap (.error e)

theorem comes_endRun (run : Run) : ∃ st, Comes s a.id st (s.endRun a d b t snap run) := by
  rw [endRun, Bench.finish]
  let metrics := { s.bench.metrics with inFlight := s.bench.metrics.inFlight.add [] (-1) }
  cases run.waitFault with
  | some message =>
    let bench := { s.bench with metrics := metrics }
    obtain ⟨st, hst⟩ := comes_afterRun { s with bench := bench } a d b t snap
      (.error (.broken message))
    exact ⟨st, (along_same bench rfl).comes hst⟩
  | none =>
    let answer := run.answer t.path
    let bench := { s.bench with metrics := metrics, client := s.bench.client.ended }.log
      (s.boundIn a) (.exited answer.exitCode answer.stdout.length)
    have hexited : Along (s.boundIn a) s { s with bench := bench } :=
      along_bench [_] rfl (List.forall_mem_singleton.mpr ⟨rfl, rfl⟩)
    obtain ⟨st, hst⟩ := comes_afterRun { s with bench := bench } a d b t snap (.ok (some answer))
    exact ⟨st, hexited.comes hst⟩

theorem comes_makeRoom : ∃ st, Comes s a.id st (s.makeRoom a b t p text) := by
  rw [makeRoom]
  split
  · exact ⟨_, (along_log s (s.boundIn a) rfl).comes (comes_finish _ a b _)⟩
  · next disk _ =>
    exact ⟨_, (along_same { s.bench with disk := disk } rfl).comes (comes_setStage _ a.id rfl rfl)⟩

theorem comes_write : ∃ st, Comes s a.id st (s.write a d b t p text) := by
  rw [write]
  split
  · next e disk _ =>
    have hleft : Along (s.boundIn a) s (s.withDisk disk) := along_same _ rfl
    exact ⟨_, (hleft.trans (along_log _ (s.boundIn a) rfl)).comes (comes_finish _ a b _)⟩
  · next disk _ =>
    have hwritten : Along (s.boundIn a) s ((s.withDisk disk).log
        (s.boundIn a) (Snapshot.writtenNotice p text)) :=
      along_bench [_] rfl (List.forall_mem_singleton.mpr ⟨rfl, rfl⟩)
    obtain ⟨st, hst⟩ := comes_launch _ a d b t (some p)
    exact ⟨st, hwritten.comes hst⟩

theorem names_of_delete {disk disk' : Disk} {notices : List Log.Notice}
    (h : Snapshot.delete disk p = .ok (disk', notices)) : ∀ n ∈ notices, n.names = false := by
  rw [Snapshot.delete] at h
  split at h
  · cases h
    simp
  · split at h
    · cases h
      simp
    · split at h <;> cases h
      exact List.forall_mem_singleton.mpr rfl

theorem comes_clean : ∃ st, Comes s a.id st (s.clean a d b t p o) := by
  rw [clean]
  cases hdelete : Snapshot.delete s.bench.disk p with
  | ok gone =>
    obtain ⟨disk, notices⟩ := gone
    have hremoved : Along (s.boundIn a) s (s.withDisk disk) :=
      along_same _ rfl
    obtain ⟨st, hst⟩ := comes_conclude
      (notices.foldl (fun (s₁ : Session) n ↦ s₁.log (s.boundIn a) n)
        (s.withDisk disk)) a d b t o
    exact ⟨st, (hremoved.trans (along_foldl_log _ _ (names_of_delete p hdelete))).comes hst⟩
  | error e =>
    obtain ⟨st, hst⟩ := comes_conclude
      (s.log (s.boundIn a) (.cleanupFailed t.path e.message)) a d b t o
    exact ⟨st, (along_log s (s.boundIn a) rfl).comes hst⟩

theorem comes_begin (hon : s.enabled = true) :
    ∃ st, Comes { s with scopes := s.scopes.bind a.id d.uri } a.id st (s.begin_ a d) := by
  rw [begin_, if_pos hon]
  let bench := { s.bench with metrics := s.bench.metrics.touch s.now }
  let bound := { s with scopes := s.scopes.bind a.id d.uri }
  -- The document is bound first, so even the first records are logged where it is bound.
  have htouched : Along (bound.boundIn a) bound { bound with bench := bench } :=
    along_same bench rfl
  dsimp only
  split
  · obtain ⟨st, hst⟩ := comes_launch { bound with bench := bench } a d ⟨s.now, .capture d⟩
      (Snapshot.inPlace s.cwd d) none
    exact ⟨st, htouched.comes hst⟩
  · have htaken : Along (bound.boundIn a) bound
        { bound with bench := bench, scratch := Snapshot.take s.scratch } :=
      htouched.trans ⟨rfl, rfl, rfl, rfl, Nat.le_refl _, [], rfl, by simp⟩
    exact ⟨_, htaken.comes (comes_setStage _ a.id rfl rfl)⟩

end

/-- What a turn of an attempt comes to. -/
inductive Turning (s : Session) (i : Nat) (s' : Session) : Prop
  | idle (same : s' = s)
  /-- It ends before it has begun, and nothing else happens. -/
  | down (a : Attempt) (r : Result) (attempt : s.attempt? i = some a)
    (created : a.stage = .created) (same : s' = s.setStage i (.ended none r))
  | begins (a : Attempt) (d : Document) (st : Stage) (attempt : s.attempt? i = some a)
    (document : s.documents[a.doc]? = some d) (created : a.stage = .created)
    (comes : Comes { s with scopes := s.scopes.bind i d.uri } i st s')
  | goesOn (a : Attempt) (st : Stage) (attempt : s.attempt? i = some a)
    (begun : a.stage.begun?.isSome = true) (under : a.stage.hasEnded = false)
    (comes : Comes s i st s')

section

variable {s : Session} {i : Nat} {a : Attempt} {d : Document}

theorem turning_stepAttempt (ha : s.attempt? i = some a) (hd : s.documents[a.doc]? = some d) :
    Turning s i (s.stepAttempt a d) := by
  have hid : a.id = i := attempt?_id ha
  subst hid
  cases hstage : a.stage with
  | created =>
    rw [stepAttempt, hstage]
    cases hon : s.enabled with
    | false =>
      refine .down a (.ok none) ha hstage ?_
      simp only [begin_, hon, if_neg Bool.false_ne_true]
      rfl
    | true =>
      obtain ⟨st, hst⟩ := comes_begin s a d hon
      exact .begins a d st ha hd hstage hst
  | makingRoom b t p text =>
    obtain ⟨st, hst⟩ := comes_makeRoom s a b t p text
    rw [stepAttempt, hstage]
    exact .goesOn a st ha (by rw [hstage]; rfl) (by rw [hstage]; rfl) hst
  | writing b t p text =>
    obtain ⟨st, hst⟩ := comes_write s a d b t p text
    rw [stepAttempt, hstage]
    exact .goesOn a st ha (by rw [hstage]; rfl) (by rw [hstage]; rfl) hst
  | spawning b t snap run directory failure =>
    obtain ⟨st, hst⟩ := comes_enter s a d b t snap run directory failure
    rw [stepAttempt, hstage]
    exact .goesOn a st ha (by rw [hstage]; rfl) (by rw [hstage]; rfl) hst
  | running b t snap run due order =>
    obtain ⟨st, hst⟩ := comes_endRun s a d b t snap run
    rw [stepAttempt, hstage]
    exact .goesOn a st ha (by rw [hstage]; rfl) (by rw [hstage]; rfl) hst
  | cleaning b t p o =>
    obtain ⟨st, hst⟩ := comes_clean s a d b t o p
    rw [stepAttempt, hstage]
    exact .goesOn a st ha (by rw [hstage]; rfl) (by rw [hstage]; rfl) hst
  | ended b r => exact .idle (by rw [stepAttempt, hstage])
  | settled b r => exact .idle (by rw [stepAttempt, hstage])

theorem turning_cancelAttempt (ha : s.attempt? i = some a) (d : Document) :
    Turning s i (s.cancelAttempt a d) := by
  have hid : a.id = i := attempt?_id ha
  subst hid
  rw [cancelAttempt]
  cases hstage : a.stage with
  | created => exact .down a (.error .cancelled) ha hstage rfl
  | makingRoom b t p text | writing b t p text | cleaning b t p o =>
    exact .goesOn a _ ha (by rw [hstage]; rfl) (by rw [hstage]; rfl) (comes_finish s a b _)
  | spawning b t snap run directory failure =>
    obtain ⟨st, hst⟩ := comes_afterRun s a d b t snap (.error .cancelled)
    exact .goesOn a st ha (by rw [hstage]; rfl) (by rw [hstage]; rfl) hst
  | running b t snap run due order =>
    let metrics := { s.bench.metrics with inFlight := s.bench.metrics.inFlight.add [] (-1) }
    let bench := { s.bench with metrics := metrics }
    obtain ⟨st, hst⟩ := comes_afterRun { s with bench := bench } a d b t snap (.error .cancelled)
    exact .goesOn a st ha (by rw [hstage]; rfl) (by rw [hstage]; rfl)
      ((along_same bench rfl).comes hst)
  | ended b r | settled b r => exact .idle rfl

end

/-! ## What happens otherwise

Nothing else touches the scope of an attempt. New scopes are opened, each under the next number. -/

/-- A scope as one can be opened: what is bound there was bound where the editor acts, or where
another scope was opened. -/
structure Offspring (s : Session) (c : Log.Scope) : Prop where
  untouched : c.Untouched
  inherited : c.inherited = s.host ∨ ∃ i, c.inherited = (s.scopes.scope i).inherited

/-- In `s'` there may be more scopes than in `s`, under numbers that had not been given out. -/
structure Opens (s s' : Session) : Prop where
  next_le : s.next ≤ s'.next
  host : s'.host = s.host
  scope : ∀ i, s'.scopes.scope i = s.scopes.scope i ∨
    s.next ≤ i ∧ Offspring s (s'.scopes.scope i)

theorem Opens.of_scopes {s s' : Session} (hnext : s.next ≤ s'.next) (hhost : s'.host = s.host)
    (h : s'.scopes = s.scopes) : Opens s s' :=
  ⟨hnext, hhost, fun _ ↦ Or.inl (by rw [h])⟩

theorem Opens.refl (s : Session) : Opens s s :=
  .of_scopes (Nat.le_refl _) rfl rfl

theorem Opens.trans {s s' s'' : Session} (h : Opens s s') (h' : Opens s' s'') : Opens s s'' where
  next_le := h.next_le.trans h'.next_le
  host := h'.host.trans h.host
  scope := by
    intro i
    rcases h'.scope i with hsame | ⟨hle, hnew⟩
    · rw [hsame]
      exact h.scope i
    · refine Or.inr ⟨h.next_le.trans hle, hnew.untouched, ?_⟩
      rcases hnew.inherited with hhost | ⟨j, hj⟩
      · exact Or.inl (hhost.trans h.host)
      · rw [hj]
        rcases h.scope j with hsame | ⟨-, hopened⟩
        · exact Or.inr ⟨j, by rw [hsame]⟩
        · exact hopened.inherited

theorem Opens.of_base {s s₁ s' : Session} (h : Opens s₁ s') (hnext : s₁.next = s.next)
    (hhost : s₁.host = s.host) (hscopes : s₁.scopes = s.scopes) : Opens s s' :=
  Opens.trans (.of_scopes hnext.ge hhost hscopes) h

theorem Opens.of_start {s s' : Session} {bound : Option String} (hnext : s.next ≤ s'.next)
    (hhost : s'.host = s.host) (h : s'.scopes = s.scopes.start s.next bound)
    (hbound : bound = s.host ∨ ∃ i, bound = (s.scopes.scope i).inherited) : Opens s s' where
  next_le := hnext
  host := hhost
  scope := by
    intro i
    rw [h, Log.Scopes.scope_start]
    split
    · next hi => exact Or.inr ⟨hi.le, rfl, hbound⟩
    · exact Or.inl rfl

theorem opens_trigger (s : Session) (doc : Nat) : Opens s (s.trigger doc) := by
  rw [trigger]
  split
  · exact Opens.refl s
  · next d _ =>
    have hnext : s.next ≤ s.next + 1 := Nat.le_succ s.next
    cases s.debounce.verdict s.enabled d == .started with
    | true =>
      simp only [if_true]
      split <;> exact .of_start hnext rfl rfl (Or.inl rfl)
    | false =>
      simp only [if_neg Bool.false_ne_true]
      split <;> exact .of_scopes hnext rfl rfl

theorem opens_triggerAll (s : Session) (docs : List Nat) : Opens s (s.triggerAll docs) := by
  induction docs generalizing s with
  | nil => exact Opens.refl s
  | cons doc docs ih => exact (opens_trigger s doc).trans (ih _)

theorem opens_settle (s : Session) (id : Nat) : Opens s (s.settle id) := by
  refine .of_scopes (s.kept_settle id).next_le ?_ ?_ <;> rw [settle] <;> split <;>
    first | rfl | (split <;> first | rfl | (split <;> rfl))

theorem opens_reconfigure (s : Session) (settings : AnalyzerSettings) (docs : List Nat) :
    Opens s (s.reconfigure settings docs) := by
  rw [reconfigure]
  dsimp only
  split
  · exact (opens_triggerAll _ docs).of_base rfl rfl rfl
  · exact .of_scopes (Nat.le_refl _) rfl rfl

/-- **What is not the turn of an attempt leaves the scopes of attempts alone.** -/
theorem opens_act (s : Session) {e : Action} (he : ∀ i, e ≠ .step i) : Opens s (s.act e) := by
  cases e with
  | step id => exact absurd rfl (he id)
  | trigger doc => exact opens_trigger s doc
  | edit doc text =>
    exact (opens_trigger (s.setText doc text) doc).of_base rfl rfl rfl
  | reconfigure settings docs => exact opens_reconfigure s settings docs
  | start docs =>
    rcases s.start_cases docs with h | ⟨disk, journal, h⟩ <;> rw [h]
    · exact Opens.refl s
    · exact (opens_triggerAll _ docs).of_base rfl rfl rfl
  | offer doc gs =>
    obtain ⟨journal, h⟩ := s.offer_cases doc gs
    rw [h]
    exact .of_scopes (Nat.le_refl _) rfl rfl
  | call doc => exact .of_start (Nat.le_succ _) rfl rfl (Or.inl rfl)
  | fire order =>
    change Opens s (s.fire order)
    rcases s.fire_cases order with h | ⟨t, -, -, h⟩ <;> rw [h]
    · exact Opens.refl s
    · exact .of_start (Nat.le_succ _) rfl rfl (Or.inr ⟨order, rfl⟩)
  | forget doc =>
    change Opens s (s.forget doc)
    rcases s.forget_cases doc with h | ⟨d, -, h⟩ <;> rw [h]
    · exact Opens.refl s
    · exact .of_scopes (Nat.le_refl _) rfl rfl
  | settle id => exact opens_settle s id
  | save doc =>
    rcases s.save_cases doc with ⟨disk, h, -⟩ | ⟨d, d', disk, -, -, h, -⟩ <;> rw [h] <;>
      exact .of_scopes (Nat.le_refl _) rfl rfl
  | _ => exact .of_scopes (Nat.le_refl _) rfl rfl

end Session

end DiagnosticFeed
