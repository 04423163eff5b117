import DiagnosticFeed.Proofs.Session.Move

/-!
# What actions leave alone

Most actions change none of what this development is about: the documents, the attempts, what is
displayed, and the fixes known for it. `Aside` says so of two sessions, and holds across triggers,
new settings and everything else that only moves timers, records and the world outside. The few
other actions are treated one by one.
-/

namespace DiagnosticFeed

namespace Session

/-- Two sessions that agree in their documents, their attempts, what is displayed and known, and
where snapshots go. The second one may have given out more numbers, and takes triggers if the first
one did. -/
structure Aside (s s' : Session) : Prop where
  documents : s'.documents = s.documents
  attempts : s'.attempts = s.attempts
  registry : s'.registry = s.registry
  nextDiagnostic : s'.nextDiagnostic = s.nextDiagnostic
  display : s'.bench.display = s.bench.display
  scratch : s'.scratch = s.scratch
  language : s'.debounce.language = s.debounce.language
  next_le : s.next ≤ s'.next
  enabled : s.enabled = true → s'.enabled = true

theorem Aside.refl (s : Session) : Aside s s := by
  constructor <;> first | rfl | exact id

theorem Aside.trans {s s' s'' : Session} (h : Aside s s') (h' : Aside s' s'') : Aside s s'' where
  documents := h'.documents.trans h.documents
  attempts := h'.attempts.trans h.attempts
  registry := h'.registry.trans h.registry
  nextDiagnostic := h'.nextDiagnostic.trans h.nextDiagnostic
  display := h'.display.trans h.display
  scratch := h'.scratch.trans h.scratch
  language := h'.language.trans h.language
  next_le := h.next_le.trans h'.next_le
  enabled := fun hs ↦ h'.enabled (h.enabled hs)

theorem aside_restart (b : Schedule.Debounce) (enabled : Bool) (now : Time) (order doc : Nat)
    (d : Document) : (b.trigger enabled now order doc d).language = b.language := by
  rw [Schedule.Debounce.trigger]
  split <;> rfl

theorem aside_trigger (s : Session) (doc : Nat) : Aside s (s.trigger doc) := by
  rw [trigger]
  cases s.documents[doc]? with
  | none => exact Aside.refl s
  | some d =>
    -- The quiet period takes a number, whether it starts or not.
    have hnext : s.next ≤ s.next + 1 := Nat.le_succ s.next
    have hlanguage := aside_restart s.debounce s.enabled s.now s.next doc d
    dsimp only
    split <;> constructor <;> first | rfl | exact hnext | exact hlanguage | exact id

theorem aside_triggerAll (s : Session) (docs : List Nat) : Aside s (s.triggerAll docs) := by
  induction docs generalizing s with
  | nil => exact Aside.refl s
  | cons doc docs ih => exact (aside_trigger s doc).trans (ih _)

theorem offer_cases (s : Session) (doc : Nat) (gs : List Diagnostic) :
    ∃ journal, s.act (.offer doc gs) = { s with bench := { s.bench with journal := journal } } := by
  change ∃ journal, (s.documents[doc]?.map fun d ↦ s.afterOffer d gs).getD s = _
  cases s.documents[doc]? with
  | none => exact ⟨s.bench.journal, rfl⟩
  | some d =>
    change ∃ journal, s.afterOffer d gs = _
    rw [afterOffer]
    generalize (QuickFix.offered s.cwd s.registry d gs).2 = targets
    induction targets using List.reverseRecOn with
    | nil => exact ⟨s.bench.journal, rfl⟩
    | append_singleton targets target ih =>
      obtain ⟨journal, h⟩ := ih
      exact ⟨_, by rw [List.foldl_append, h]; rfl⟩

/-- A start that is not given up triggers for documents, after the scratch directory was made or
could not be made. -/
theorem start_cases (s : Session) (docs : List Nat) :
    s.act (.start docs) = s ∨ ∃ disk journal, s.act (.start docs) =
      { s with bench := { s.bench with disk := disk, journal := journal } }.triggerAll docs := by
  change (s.start docs).toOption.getD s = s ∨ ∃ disk journal, (s.start docs).toOption.getD s = _
  rw [start]
  cases s.bench.disk.makeDirectory s.scratch.directory with
  | ok disk => exact Or.inr ⟨disk, _, rfl⟩
  | error e =>
    -- Refusals of the operating system are logged only; anything else ends the start.
    cases hsystem : e.isSystem with
    | true =>
      simp only [hsystem, if_true]
      exact Or.inr ⟨s.bench.disk, _, rfl⟩
    | false =>
      simp only [hsystem, if_neg Bool.false_ne_true]
      exact Or.inl rfl

theorem aside_reconfigure (s : Session) (settings : AnalyzerSettings) (docs : List Nat) :
    Aside s (s.reconfigure settings docs) := by
  rw [reconfigure]
  dsimp only
  split
  · -- The client of another executable is as good as new.
    have hreset : s.enabled = true →
        !(s.bench.client.reset (some settings.executable)).isUnavailable = true := fun _ ↦ rfl
    exact Aside.trans (by constructor <;> first | rfl | exact hreset) (aside_triggerAll _ docs)
  · constructor <;> first | rfl | exact id

/-- Actions that only concern timers, records and the world outside. -/
def Action.isAside : Action → Bool
  | .trigger _ | .offer .. | .start _ | .stop | .reconfigure .. | .pass _ | .disturb _
  | .expect _ => true
  | _ => false

theorem aside_act (s : Session) {e : Action} (he : e.isAside = true) : Aside s (s.act e) := by
  cases e with
  | trigger doc => exact aside_trigger s doc
  | offer doc gs =>
    obtain ⟨journal, h⟩ := s.offer_cases doc gs
    rw [h]
    constructor <;> first | rfl | exact id
  | start docs =>
    rcases s.start_cases docs with h | ⟨disk, journal, h⟩ <;> rw [h]
    · exact Aside.refl s
    · exact Aside.trans (by constructor <;> first | rfl | exact id) (aside_triggerAll _ docs)
  | stop => constructor <;> first | rfl | exact id
  | reconfigure settings docs => exact aside_reconfigure s settings docs
  | pass now => constructor <;> first | rfl | exact id
  | disturb disk => constructor <;> first | rfl | exact id
  | expect runs => constructor <;> first | rfl | exact id
  | _ => simp [Action.isAside] at he

/-! ## Steps

A step reaches neither the documents nor the timers, the settings or the clock. -/

/-- Two sessions that agree in what is out of an attempt's reach. -/
structure Still (s s' : Session) : Prop where
  documents : s'.documents = s.documents
  settings : s'.settings = s.settings
  debounce : s'.debounce = s.debounce
  now : s'.now = s.now
  next_le : s.next ≤ s'.next

theorem Still.refl (s : Session) : Still s s := by
  constructor <;> rfl

theorem Still.trans {s s' s'' : Session} (h : Still s s') (h' : Still s' s'') : Still s s'' where
  documents := h'.documents.trans h.documents
  settings := h'.settings.trans h.settings
  debounce := h'.debounce.trans h.debounce
  now := h'.now.trans h.now
  next_le := h.next_le.trans h'.next_le

theorem Kept.still {s s' : Session} (h : Kept s s') : Still s s' :=
  ⟨h.documents, h.settings, h.debounce, h.now, h.next_le⟩

section

variable {s s' : Session} {d : Document} {b : Begun} {t : Target}
  {o : Except Failure (Option Answer)} {snap : Option FilePath} {st st' : Stage}

theorem Ending.still {r : Result} (h : Ending s d b t s' o r) : Still s s' := by
  cases h with
  | failed e kept => exact kept.still
  | nothing kept => exact kept.still
  | stale answer old kept => exact kept.still
  | published answer current kept => exact Still.trans (by constructor <;> rfl) kept.still

theorem Following.still (h : Following s d b t s' o snap st) : Still s s' := by
  cases h with
  | toClean p kept => exact kept.still
  | toEnd r ending => exact ending.still

theorem Calling.still (h : Calling s d b t snap s' st) : Still s s' := by
  cases h with
  | pathless st empty following => exact following.still
  | spawned run directory path kept => exact kept.still

theorem Move.still (h : Move s d s' st st') : Still s s' := by
  cases h with
  | turnedDown off kept => exact kept.still
  | inPlace st on inPlace calling => exact calling.still
  | copy on copy kept => exact Still.trans (by constructor <;> rfl) kept.still
  | noRoom b t p text e failed kept => exact kept.still
  | room b t p text disk made kept => exact Still.trans (by constructor <;> rfl) kept.still
  | unwritten b t p text e disk failed kept => exact Still.trans (by constructor <;> rfl) kept.still
  | written b t p text disk st written calling =>
    exact Still.trans (by constructor <;> rfl) calling.still
  | entered b t snap run directory kept => exact kept.still
  | missing b t snap run directory e st cause following =>
    exact Still.trans (by constructor <;> rfl) following.still
  | refused b t snap run directory e st cause following => exact following.still
  | broken b t snap run directory e st cause following => exact following.still
  | lost b t snap run due order message st fault following => exact following.still
  | answered b t snap run due order st fine following =>
    exact Still.trans (by constructor <;> rfl) following.still
  | cleaned b t p o disk notices r gone ending =>
    exact Still.trans (by constructor <;> rfl) ending.still
  | uncleaned b t p o e r failed ending => exact ending.still

end

theorem still_step (s : Session) (id : Nat) : Still s (s.step id) := by
  rcases s.step_cases id with h | ⟨a, d, st, -, -, -, -, hmove⟩
  · rw [h]
    exact Still.refl s
  · exact hmove.still

theorem kept_settle (s : Session) (id : Nat) : Kept s (s.settle id) := by
  rw [settle]
  split
  · exact Kept.refl s
  · split
    · split <;> constructor <;> rfl
    · exact Kept.refl s

/-! ## The actions that are left

Saving, forgetting, the end of a quiet period and making an end known do nothing, or one thing. -/

theorem fire_cases (s : Session) (order : Nat) :
    s.fire order = s ∨ ∃ t, s.debounce.timer? order = some t ∧ t.due ≤ s.now ∧
      s.fire order = { s with
        debounce := s.debounce.cancel t.uri
        attempts := s.attempts ++ [⟨s.next, t.doc, .timer, .created⟩]
        next := s.next + 1
        scopes := s.scopes.start s.next (s.scopes.scope order).inherited } := by
  rw [fire]
  split
  · exact Or.inl rfl
  · next t ht =>
    by_cases hdue : t.due ≤ s.now
    · exact Or.inr ⟨t, ht, hdue, if_pos hdue⟩
    · exact Or.inl (if_neg hdue)

theorem forget_cases (s : Session) (doc : Nat) :
    s.forget doc = s ∨ ∃ d, s.documents[doc]? = some d ∧
      s.forget doc = { s with
        debounce := s.debounce.cancel d.uri
        registry := s.registry.invalidate d.uri
        bench := { s.bench with display := Keyed.erase s.bench.display d.uri } } := by
  rw [forget]
  split
  · exact Or.inl rfl
  · next d hd => exact Or.inr ⟨d, hd, rfl⟩

theorem settle_cases (s : Session) (id : Nat) :
    s.settle id = s ∨ ∃ a b r, s.attempt? id = some a ∧ a.stage = .ended b r ∧
      (s.settle id).attempts = (s.setStage id (.settled b r)).attempts := by
  rw [settle]
  split
  · exact Or.inl rfl
  · next a ha =>
    split
    · next b r hended =>
      refine Or.inr ⟨a, b, r, ha, hended, ?_⟩
      split <;> rfl
    · exact Or.inl rfl

/-- A save that fails can have changed files. -/
theorem save_cases (s : Session) (doc : Nat) :
    (∃ disk, s.act (.save doc) = s.withDisk disk ∧
      ((s.save doc).isOk = true → disk = s.bench.disk)) ∨
    ∃ d d' disk, s.documents[doc]? = some d ∧ d.save s.bench.disk = .ok (d', disk) ∧
      s.act (.save doc) = (s.modifyDocument doc fun _ ↦ d').withDisk disk ∧
      (s.save doc).isOk = true := by
  rw [act, save]
  cases hd : s.documents[doc]? with
  | none => exact Or.inl ⟨s.bench.disk, rfl, fun _ ↦ rfl⟩
  | some d =>
    cases hsave : d.save s.bench.disk with
    | error failed =>
      simp only [hsave]
      exact Or.inl ⟨failed.2, rfl, nofun⟩
    | ok saved =>
      simp only [hsave]
      exact Or.inr ⟨d, saved.1, saved.2, rfl, hsave, rfl, rfl⟩

/-- Actions on documents that the session is not told of. -/
def Action.isUnheard : Action → Bool
  | .openDocument _ | .setText .. | .save _ | .close _ => true
  | _ => false

/-- What the session is not told of changes documents and files only. -/
theorem unheard_act (s : Session) {e : Action} (he : e.isUnheard = true) :
    ∃ documents disk,
      s.act e = { s with documents := documents, bench := { s.bench with disk := disk } } := by
  cases e with
  | openDocument d => exact ⟨s.documents ++ [d], s.bench.disk, rfl⟩
  | setText doc text => exact ⟨s.documents.modify doc (·.setText text), s.bench.disk, rfl⟩
  | close doc => exact ⟨s.documents.modify doc (·.close), s.bench.disk, rfl⟩
  | save doc =>
    rcases s.save_cases doc with ⟨disk, h, -⟩ | ⟨d, d', disk, -, -, h, -⟩
    · exact ⟨s.documents, disk, h⟩
    · exact ⟨s.documents.modify doc (fun _ ↦ d'), disk, h⟩
  | _ => cases he

/-! ## All actions -/

theorem Kept.enabled_eq {s s' : Session} (h : Kept s s') : s'.enabled = s.enabled := by
  rw [enabled, enabled, h.client]

/-- What holds across every action: no number is taken back, the language that triggers must be of
stays, and only a step can turn triggers off. -/
structure Onward (s : Session) (e : Action) (s' : Session) : Prop where
  next_le : s.next ≤ s'.next
  language : s'.debounce.language = s.debounce.language
  enabled : s.enabled = true → (∃ id, e = .step id) ∨ s'.enabled = true

theorem onward_act (s : Session) (e : Action) : Onward s e (s.act e) := by
  by_cases haside : e.isAside = true
  · have h := s.aside_act haside
    exact ⟨h.next_le, h.language, fun hon ↦ Or.inr (h.enabled hon)⟩
  by_cases hunheard : e.isUnheard = true
  · obtain ⟨documents, disk, h⟩ := s.unheard_act hunheard
    rw [h]
    exact ⟨Nat.le_refl s.next, rfl, Or.inr⟩
  cases e with
  | edit doc text =>
    have h := aside_trigger (s.setText doc text) doc
    exact ⟨h.next_le, h.language, fun hon ↦ Or.inr (h.enabled hon)⟩
  | forget doc =>
    rw [act]
    rcases s.forget_cases doc with h | ⟨d, -, h⟩ <;> rw [h] <;>
      exact ⟨Nat.le_refl s.next, rfl, Or.inr⟩
  | call doc => exact ⟨Nat.le_succ s.next, rfl, Or.inr⟩
  | fire order =>
    rw [act]
    rcases s.fire_cases order with h | ⟨t, -, -, h⟩ <;> rw [h]
    · exact ⟨Nat.le_refl s.next, rfl, Or.inr⟩
    · exact ⟨Nat.le_succ s.next, rfl, Or.inr⟩
  | step id =>
    have h := s.still_step id
    exact ⟨h.next_le, congrArg _ h.debounce, fun _ ↦ Or.inl ⟨id, rfl⟩⟩
  | settle id =>
    have h := s.kept_settle id
    exact ⟨h.next_le, congrArg _ h.debounce, fun hon ↦ Or.inr (h.enabled_eq.trans hon)⟩
  | _ => simp [Action.isAside, Action.isUnheard] at haside hunheard

end Session

end DiagnosticFeed
