import DiagnosticFeed.Proofs.Session.LastWord
import DiagnosticFeed.Proofs.Session.Scopes

/-!
# Whose records are whose

From its first step to its end an attempt has its document bound in its scope, so each of its
records is written with the name of this document; and when it has ended, however it did, nothing is
left bound there.

A scope begins with what is bound where the attempt comes from. So a run here is more than a list of
actions: the editor may act where any document is bound, and attempts may be cancelled.
-/

namespace DiagnosticFeed

/-- What a notice tells of the document that is bound where it is logged, as it is written. -/
def Log.Notice.writtenUri (n : Log.Notice) (bound : Option String) : Json.Value :=
  Json.Object.field (n.record.stamped (boundFields bound)).fields "uri"

/-- A notice that names no document is written with the one that is bound. -/
theorem Log.Notice.writtenUri_of_bound {n : Log.Notice} (h : n.names = false) (uri : String) :
    n.writtenUri (some uri) = .str uri := by
  rw [names, Keyed.has, Option.isSome_eq_false_iff, Option.isNone_iff_eq_none] at h
  rw [writtenUri, Json.Object.field, Log.get?_stamped _ _ (by decide), h]
  rfl

namespace Session

/-! ## Runs -/

/-- One thing that can happen around a session. -/
inductive Occurrence where
  | act (e : Action)
  /-- The editor goes on where this is bound. -/
  | enter (bound : Option String)
  | cancel (id : Nat)

def meet (s : Session) : Occurrence → Session
  | .act e => s.act e
  | .enter bound => { s with host := bound }
  | .cancel id => s.cancel id

/-- A session after a list of occurrences, the first one first. -/
def meetAll (s : Session) (os : List Occurrence) : Session :=
  os.foldl meet s

/-- The attempt whose turn an occurrence is. -/
def Occurrence.turn? : Occurrence → Option Nat
  | .act (.step id) | .cancel id => some id
  | _ => none

@[simp] theorem meetAll_concat (s : Session) (os : List Occurrence) (o : Occurrence) :
    s.meetAll (os ++ [o]) = (s.meetAll os).meet o :=
  List.foldl_append

/-! ## One occurrence -/

section

variable {s : Session} {i : Nat}

/-- **What is logged in a turn is logged in the scope of the attempt**, whose document is bound
there from the first step to the end. -/
theorem turning_meet {o : Occurrence} (ho : o.turn? = some i) : Turning s i (s.meet o) := by
  have hturn : s.meet o = s ∨ ∃ a d, s.attempt? i = some a ∧ s.documents[a.doc]? = some d ∧
      (s.meet o = s.stepAttempt a d ∨ s.meet o = s.cancelAttempt a d) := by
    match o, ho with
    | .act (.step id), rfl =>
      change s.step id = s ∨ ∃ a d, _ ∧ _ ∧ (s.step id = _ ∨ s.step id = _)
      rcases s.step_eq_self_or id with ⟨hsame, -⟩ | ⟨a, d, ha, hd, hcan⟩
      · exact Or.inl hsame
      · exact Or.inr ⟨a, d, ha, hd, Or.inl (by rw [step_eq ha hd, if_pos hcan])⟩
    | .cancel id, rfl =>
      change s.cancel id = s ∨ ∃ a d, _ ∧ _ ∧ (s.cancel id = _ ∨ s.cancel id = _)
      rw [cancel]
      cases ha : s.attempt? id with
      | none => exact Or.inl rfl
      | some a =>
        cases hd : s.documents[a.doc]? with
        | none => exact Or.inl (by simp only [hd])
        | some d => exact Or.inr ⟨a, d, rfl, hd, Or.inr (by simp only [hd])⟩
  rcases hturn with hsame | ⟨a, d, ha, hd, h | h⟩
  · exact .idle hsame
  · rw [h]
    exact turning_stepAttempt ha hd
  · rw [h]
    exact turning_cancelAttempt ha d

end

/-! ## What should be bound -/

/-- What is bound in the scope of an attempt, by how far it is. -/
structure Owns (s : Session) (a : Attempt) : Prop where
  /-- Who has not begun, or was turned down, has changed nothing. -/
  untouched : a.stage.begun? = none → (s.scopes.scope a.id).Untouched
  own : a.stage.begun?.isSome = true → a.stage.hasEnded = false →
    ∃ d, s.documents[a.doc]? = some d ∧ (s.scopes.scope a.id).bound = some d.uri
  released : a.stage.begun?.isSome = true → a.stage.hasEnded = true →
    (s.scopes.scope a.id).bound = none

theorem Owns.congr {s s' : Session} {a : Attempt} {st : Stage} (h : Owns s a)
    (hscope : s'.scopes.scope a.id = s.scopes.scope a.id) (hbegun : st.begun? = a.stage.begun?)
    (hended : st.hasEnded = a.stage.hasEnded)
    (hdocument : ∀ d, s.documents[a.doc]? = some d →
      ∃ d', s'.documents[a.doc]? = some d' ∧ d'.uri = d.uri) :
    Owns s' { a with stage := st } where
  untouched := by
    rw [hscope, hbegun]
    exact h.untouched
  own := by
    rw [hscope, hbegun, hended]
    intro hbegan hopen
    obtain ⟨d, hd, hbound⟩ := h.own hbegan hopen
    obtain ⟨d', hd', huri⟩ := hdocument d hd
    exact ⟨d', hd', by rw [hbound, huri]⟩
  released := by
    rw [hscope, hbegun, hended]
    exact h.released

/-- A session in which every attempt has the scope that it should have. -/
structure Attributed (s : Session) : Prop where
  numbered : ∀ {i a}, s.attempt? i = some a → i < s.next
  unused : ∀ {i}, s.attempt? i = none → (s.scopes.scope i).Untouched
  owns : ∀ {i a}, s.attempt? i = some a → Owns s a

section

variable {s s' : Session} {e : Action} {i : Nat} {a : Attempt} {st : Stage}

theorem attributed_opened (h₀ : s.Opened) : Attributed s := by
  have hnone : ∀ i, s.attempt? i = none := by
    intro i
    rw [attempt?, h₀.attempts_eq]
    rfl
  obtain ⟨disk, settings, documents, workspace, runs, rfl⟩ := h₀
  refine ⟨?_, fun _ ↦ rfl, ?_⟩ <;> intro i a ha <;> cases (hnone i).symm.trans ha

theorem numbered_act (h : ∀ {i a}, s.attempt? i = some a → i < s.next)
    (ha : (s.act e).attempt? i = some a) : i < (s.act e).next := by
  have hle := (s.onward_act e).next_le
  cases hi : s.attempt? i with
  | some a₀ => exact (h hi).trans_le hle
  | none =>
    -- Only the attempt that was just created can be new.
    rcases s.attempts_act e with hsame | ⟨doc, origin, hnew, hnext⟩ | ⟨a₁, st, -, hset, -⟩
    · rw [attempt?, hsame] at ha
      cases hi.symm.trans ha
    · rw [attempt?_append hnew, hi, Option.none_or] at ha
      split at ha
      · next hid =>
        change s.next = i at hid
        omega
      · cases ha
    · have hfind : (s.act e).attempt? i = (s.setStage a₁.id st).attempt? i := by
        rw [attempt?, attempt?, hset]
      rw [hfind, attempt?_setStage, hi] at ha
      cases ha

/-- **What is not the turn of an attempt keeps the scopes as they should be.** -/
theorem Attributed.act (h : s.Attributed) (he : ∀ i, e ≠ .step i) : (s.act e).Attributed := by
  have hopens := s.opens_act he
  -- A new scope has a number that no attempt has, so it hides none.
  have hsame : ∀ {i a}, s.attempt? i = some a →
      (s.act e).scopes.scope i = s.scopes.scope i := by
    intro i a ha
    rcases hopens.scope i with hsame | ⟨hle, -⟩
    · exact hsame
    · exact absurd (h.numbered ha) (Nat.not_lt.mpr hle)
  have hunused : ∀ {i}, s.attempt? i = none → ((s.act e).scopes.scope i).Untouched := by
    intro i hi
    rcases hopens.scope i with hsame | ⟨-, hnew⟩
    · rw [hsame]
      exact h.unused hi
    · exact hnew.untouched
  refine ⟨numbered_act h.numbered, ?_, ?_⟩
  · intro i hi
    cases hold : s.attempt? i with
    | none => exact hunused hold
    | some a =>
      obtain ⟨st, hst, -⟩ := attempt?_act hold e
      cases hi.symm.trans hst
  · intro i a' ha'
    rcases attempt?_of_act ha' with ⟨a, st, ha, rfl, hprogress⟩ | ⟨hi, hcreated⟩
    · have hid : a.id = i := attempt?_id ha
      subst hid
      have hdocument : ∀ d, s.documents[a.doc]? = some d →
          ∃ d', (s.act e).documents[a.doc]? = some d' ∧ d'.uri = d.uri := by
        intro d hd
        obtain ⟨d', hd', hlater⟩ := later_act hd e
        exact ⟨d', hd', hlater.uri⟩
      cases hprogress with
      | idle => exact (h.owns ha).congr (hsame ha) rfl rfl hdocument
      | moved d st step document can move => exact absurd step (he a.id)
      | settled b r settle ended =>
        exact (h.owns ha).congr (hsame ha) (by rw [ended]; rfl) (by rw [ended]; rfl) hdocument
    · have hid : a'.id = i := attempt?_id ha'
      refine ⟨fun _ ↦ hid ▸ hunused hi, ?_, ?_⟩ <;> rw [hcreated] <;> intro hbegun <;> cases hbegun

theorem Comes.owns {s₁ : Session} (h : Comes s₁ a.id st s')
    (hown : ∃ d, s₁.documents[a.doc]? = some d ∧
      (s₁.scopes.scope a.id).bound = some d.uri) : Owns s' { a with stage := st } where
  untouched := by
    intro hnone
    have hbegun := h.begun
    rw [hnone] at hbegun
    cases hbegun
  own := by
    intro _ hopen
    rw [h.documents, h.scopes, hopen, if_neg Bool.false_ne_true]
    exact hown
  released := by
    intro _ hended
    rw [h.scopes, hended, if_pos rfl, Log.Scopes.scope_unbind, if_pos rfl]

theorem Attributed.of_stage (h : s.Attributed) (ha : s.attempt? i = some a)
    (hattempts : s'.attempts = (s.setStage i st).attempts)
    (hdocuments : s'.documents = s.documents) (hnext : s.next ≤ s'.next)
    (hothers : ∀ j, j ≠ i → s'.scopes.scope j = s.scopes.scope j)
    (howns : Owns s' { a with stage := st }) : s'.Attributed := by
  have hfind : ∀ j, s'.attempt? j =
      (s.attempt? j).map fun a ↦ if j = i then { a with stage := st } else a := by
    intro j
    rw [attempt?, hattempts]
    exact attempt?_setStage s i j st
  constructor
  · intro j a' ha'
    rw [hfind, Option.map_eq_some_iff] at ha'
    obtain ⟨a₀, ha₀, -⟩ := ha'
    exact (h.numbered ha₀).trans_le hnext
  · intro j hj
    rw [hfind, Option.map_eq_none_iff] at hj
    have hne : j ≠ i := by
      rintro rfl
      cases ha.symm.trans hj
    rw [hothers j hne]
    exact h.unused hj
  · intro j a' ha'
    rw [hfind, Option.map_eq_some_iff] at ha'
    obtain ⟨a₀, ha₀, rfl⟩ := ha'
    by_cases hj : j = i
    · subst hj
      cases ha.symm.trans ha₀
      rw [if_pos rfl]
      exact howns
    · have hid : a₀.id = j := attempt?_id ha₀
      rw [if_neg hj]
      refine (h.owns ha₀).congr (hid ▸ hothers j hj) rfl rfl ?_
      intro d hd
      exact ⟨d, by rw [hdocuments, hd], rfl⟩

theorem Turning.scope_of_ne (h : Turning s i s') {j : Nat} (hj : j ≠ i) :
    s'.scopes.scope j = s.scopes.scope j := by
  have hunbind : ∀ l : Log.Scopes, (l.unbind i).scope j = l.scope j := by
    intro l
    rw [Log.Scopes.scope_unbind, if_neg (Ne.symm hj)]
  have hbind : ∀ (l : Log.Scopes) (uri : String), (l.bind i uri).scope j = l.scope j := by
    intro l uri
    rw [Log.Scopes.scope_bind, if_neg (Ne.symm hj)]
  cases h with
  | idle same => rw [same]
  | down a r attempt created same => rw [same]; rfl
  | begins a d st attempt document created comes =>
    rw [comes.scopes]
    split
    · rw [hunbind, hbind]
    · exact hbind s.scopes d.uri
  | goesOn a st attempt begun under comes =>
    rw [comes.scopes]
    split
    · exact hunbind s.scopes
    · rfl

/-- **A turn of an attempt keeps the scopes as they should be.** -/
theorem Attributed.turn (h : s.Attributed) (hturn : Turning s i s') : s'.Attributed := by
  have hothers := fun j (hj : j ≠ i) ↦ hturn.scope_of_ne hj
  cases hturn with
  | idle same => rwa [same]
  | down a r attempt created same =>
    have hid : a.id = i := attempt?_id attempt
    rw [same]
    refine h.of_stage attempt rfl rfl (Nat.le_refl _) (fun _ _ ↦ rfl) ⟨fun _ ↦ ?_, ?_, ?_⟩
    · exact (h.owns attempt).untouched (by rw [created]; rfl)
    · intro hbegun
      cases hbegun
    · intro hbegun
      cases hbegun
  | begins a d st attempt document created comes =>
    have hid : a.id = i := attempt?_id attempt
    subst hid
    exact h.of_stage attempt comes.attempts comes.documents comes.next_le hothers
      (comes.owns ⟨d, document, by rw [Log.Scopes.scope_bind, if_pos rfl]⟩)
  | goesOn a st attempt begun under comes =>
    have hid : a.id = i := attempt?_id attempt
    subst hid
    exact h.of_stage attempt comes.attempts comes.documents comes.next_le hothers
      (comes.owns ((h.owns attempt).own begun under))

theorem Attributed.meet (h : s.Attributed) (o : Occurrence) : (s.meet o).Attributed := by
  cases hturn : o.turn? with
  | some i => exact h.turn (turning_meet hturn)
  | none =>
    cases o with
    | act e => exact h.act fun i hi ↦ by rw [hi] at hturn; cases hturn
    | enter bound => exact ⟨h.numbered, h.unused, fun ha ↦ (h.owns ha).congr rfl rfl rfl
        fun d hd ↦ ⟨d, hd, rfl⟩⟩
    | cancel id => cases hturn

theorem attributed_meetAll (h : s.Attributed) (os : List Occurrence) :
    (s.meetAll os).Attributed := by
  induction os using List.reverseRecOn with
  | nil => exact h
  | append_singleton os o ih =>
    rw [meetAll_concat]
    exact ih.meet o

/-- **Only the turns of an attempt touch its scope.** -/
theorem scope_meet (h : s.Attributed) (ha : s.attempt? i = some a) {o : Occurrence}
    (ho : o.turn? ≠ some i) : (s.meet o).scopes.scope i = s.scopes.scope i := by
  cases hturn : o.turn? with
  | some j =>
    exact (turning_meet hturn).scope_of_ne fun hi ↦ ho (by rw [hturn, hi])
  | none =>
    cases o with
    | act e =>
      have hopens := s.opens_act (e := e) fun j hj ↦ by rw [hj] at hturn; cases hturn
      rcases hopens.scope i with hsame | ⟨hle, -⟩
      · exact hsame
      · exact absurd (h.numbered ha) (Nat.not_lt.mpr hle)
    | enter bound => rfl
    | cancel id => cases hturn

theorem written_meet (h : s.Attributed) (ha : s.attempt? i = some a) {d : Document}
    (hd : s.documents[a.doc]? = some d) {o : Occurrence} (ho : o.turn? = some i) :
    ∃ new, (s.meet o).bench.journal = new ++ s.bench.journal ∧
      ∀ bound n, .logged bound n ∈ new → n.writtenUri bound = .str d.uri := by
  have hwritten : ∀ {new : Journal}, (∀ ev ∈ new, ev.IsIn (some d.uri)) →
      ∀ bound n, .logged bound n ∈ new → n.writtenUri bound = .str d.uri := by
    intro new hin bound n hn
    obtain ⟨rfl, hnames⟩ := hin _ hn
    exact Log.Notice.writtenUri_of_bound hnames d.uri
  cases turning_meet (s := s) ho with
  | idle same => exact ⟨[], by rw [same]; rfl, by simp⟩
  | down a₁ r attempt created same => exact ⟨[], by rw [same]; rfl, by simp⟩
  | begins a₁ d₁ st attempt document created comes =>
    cases ha.symm.trans attempt
    cases hd.symm.trans document
    obtain ⟨new, hnew, hin⟩ := comes.journal
    rw [Log.Scopes.scope_bind, if_pos rfl] at hin
    exact ⟨new, hnew, hwritten hin⟩
  | goesOn a₁ st attempt begun under comes =>
    cases ha.symm.trans attempt
    have hid : a.id = i := attempt?_id ha
    obtain ⟨d₁, hd₁, hbound⟩ := (h.owns ha).own begun under
    cases hd.symm.trans hd₁
    obtain ⟨new, hnew, hin⟩ := comes.journal
    rw [← hid, hbound] at hin
    exact ⟨new, hnew, hwritten hin⟩

/-! Where the editor acts, nothing may ever be bound. -/

/-- No scope was opened where anything was bound, nor does the editor act there. -/
structure Bindless (s : Session) : Prop where
  host : s.host = none
  inherited : ∀ i, (s.scopes.scope i).inherited = none

theorem Bindless.turn (h : s.Bindless) (hturn : Turning s i s') : s'.Bindless := by
  have hunbind : ∀ (l : Log.Scopes) (j : Nat),
      ((l.unbind i).scope j).inherited = (l.scope j).inherited := by
    intro l j
    rw [Log.Scopes.scope_unbind]
    split
    · next hi => rw [hi]
    · rfl
  have hbind : ∀ (l : Log.Scopes) (uri : String) (j : Nat),
      ((l.bind i uri).scope j).inherited = (l.scope j).inherited := by
    intro l uri j
    rw [Log.Scopes.scope_bind]
    split
    · next hi => rw [hi]
    · rfl
  cases hturn with
  | idle same => rwa [same]
  | down a r attempt created same => rw [same]; exact ⟨h.host, h.inherited⟩
  | begins a d st attempt document created comes =>
    refine ⟨comes.host.trans h.host, fun j ↦ ?_⟩
    rw [comes.scopes]
    split
    · rw [hunbind, hbind, h.inherited]
    · exact (hbind s.scopes d.uri j).trans (h.inherited j)
  | goesOn a st attempt begun under comes =>
    refine ⟨comes.host.trans h.host, fun j ↦ ?_⟩
    rw [comes.scopes]
    split
    · rw [hunbind, h.inherited]
    · exact h.inherited j

theorem Bindless.meet (h : s.Bindless) {o : Occurrence}
    (ho : ∀ bound, o = .enter bound → bound = none) : (s.meet o).Bindless := by
  cases hturn : o.turn? with
  | some i => exact h.turn (turning_meet hturn)
  | none =>
    cases o with
    | act e =>
      have hopens := s.opens_act (e := e) fun i hi ↦ by rw [hi] at hturn; cases hturn
      refine ⟨hopens.host.trans h.host, fun i ↦ ?_⟩
      change ((s.act e).scopes.scope i).inherited = none
      rcases hopens.scope i with hsame | ⟨-, hnew⟩
      · rw [hsame, h.inherited]
      · rcases hnew.inherited with hhost | ⟨j, hj⟩
        · rw [hhost, h.host]
        · rw [hj, h.inherited]
    | enter bound => exact ⟨ho bound rfl, h.inherited⟩
    | cancel id => cases hturn

theorem bindless_meetAll (h₀ : s.Opened) {os : List Occurrence}
    (hos : ∀ bound, .enter bound ∈ os → bound = none) : (s.meetAll os).Bindless := by
  induction os using List.reverseRecOn with
  | nil =>
    obtain ⟨disk, settings, documents, workspace, runs, rfl⟩ := h₀
    exact ⟨rfl, fun _ ↦ rfl⟩
  | append_singleton os o ih =>
    rw [meetAll_concat]
    exact (ih fun bound hbound ↦ hos bound (List.mem_append_left _ hbound)).meet
      fun bound hbound ↦ hos bound (by rw [hbound]; simp)

/-! ## Whole runs -/

/-- What holds of the records of attempts, and of what is bound, in a run. -/
structure Attribution (s₀ : Session) (os : List Occurrence) : Prop where
  /-- What an attempt logs in a turn is written with the name of its document. -/
  written : ∀ past o future i a d, os = past ++ o :: future → o.turn? = some i →
    (s₀.meetAll past).attempt? i = some a → (s₀.meetAll past).documents[a.doc]? = some d →
    ∃ new, (s₀.meetAll (past ++ [o])).bench.journal = new ++ (s₀.meetAll past).bench.journal ∧
      ∀ bound n, .logged bound n ∈ new → n.writtenUri bound = .str d.uri
  /-- Until it ends its document is bound, -/
  bound : ∀ i a, (s₀.meetAll os).attempt? i = some a → a.stage.begun?.isSome = true →
    a.stage.hasEnded = false → ∃ d, (s₀.meetAll os).documents[a.doc]? = some d ∧
      ((s₀.meetAll os).scopes.scope i).bound = some d.uri
  /-- and nobody else changes this. -/
  alone : ∀ past o future i a, os = past ++ o :: future → o.turn? ≠ some i →
    (s₀.meetAll past).attempt? i = some a →
    (s₀.meetAll (past ++ [o])).scopes.scope i = (s₀.meetAll past).scopes.scope i
  /-- When it has ended nothing stays bound; who has not begun by then has bound nothing. -/
  released : ∀ i a, (s₀.meetAll os).attempt? i = some a → a.stage.hasEnded = true →
    ((s₀.meetAll os).scopes.scope i).bound =
      if a.stage.begun?.isSome then none else ((s₀.meetAll os).scopes.scope i).inherited
  /-- So nothing is bound for anyone who has ended, if the editor binds nothing. -/
  nothing : (∀ bound, .enter bound ∈ os → bound = none) → ∀ i a,
    (s₀.meetAll os).attempt? i = some a → a.stage.hasEnded = true →
    ((s₀.meetAll os).scopes.scope i).bound = none

/-- **Records are attributed to the right documents**, however attempts interleave, wherever they
come from and however they end. -/
theorem attribution {s₀ : Session} (h₀ : s₀.Opened) (os : List Occurrence) :
    Attribution s₀ os := by
  have hall := fun past ↦ attributed_meetAll (attributed_opened h₀) past
  have hreleased : ∀ i a, (s₀.meetAll os).attempt? i = some a → a.stage.hasEnded = true →
      ((s₀.meetAll os).scopes.scope i).bound =
        if a.stage.begun?.isSome then none else ((s₀.meetAll os).scopes.scope i).inherited := by
    intro i a ha hended
    have hid : a.id = i := attempt?_id ha
    have howns := (hall os).owns ha
    split
    · next hbegun => exact hid ▸ howns.released hbegun hended
    · next hnone => exact hid ▸ howns.untouched (by simpa using hnone)
  constructor
  · intro past o future i a d _ ho ha hd
    rw [meetAll_concat]
    exact written_meet (hall past) ha hd ho
  · intro i a ha hbegun hopen
    have hid : a.id = i := attempt?_id ha
    exact hid ▸ ((hall os).owns ha).own hbegun hopen
  · intro past o future i a _ ho ha
    rw [meetAll_concat]
    exact scope_meet (hall past) ha ho
  · exact hreleased
  · intro hos i a ha hended
    rw [hreleased i a ha hended, (bindless_meetAll h₀ hos).inherited]
    split <;> rfl

end

/-! Two attempts on one document and one on another, of which one loses its process and one is
cancelled. The quiet period that one is started by began where something else was bound. -/

def mixedSample : Session :=
  open_ ⟨⟨.root, ["w"]⟩, [], [], []⟩ {} [sampleDocument, otherDocument] none
    [{ waitFault := some "boom" }, { stdout := fun _ ↦ .text "junk" }]

def mixedRun : List Occurrence :=
  [.enter (some "file:///w/c.sg"), .act (.trigger 0), .enter none, .act (.call 1), .act (.call 0),
    .act (.step 1), .act (.pass 10000000000), .act (.fire 0), .act (.step 3), .act (.step 1),
    .act (.step 3), .act (.step 2), .act (.step 1), .cancel 2, .act (.step 3)]

/-- The names of documents that records are written with, the first record first. -/
def writtenUris (s : Session) : List (String × Option String) :=
  s.bench.journal.reverse.filterMap fun
    | .logged bound n => some (n.record.event, (n.writtenUri bound).string?)
    | _ => none

/-- Each record names the document of the attempt that logs it, and nothing stays bound. -/
theorem attribution_sample : mixedSample.Opened ∧ Attribution mixedSample mixedRun ∧
    writtenUris (mixedSample.meetAll mixedRun) =
      [("analysis_scheduled", some "file:///w/a.sg"), ("analyzer_spawning", some "file:///w/b.sg"),
        ("analyzer_spawning", some "file:///w/a.sg"), ("analyzer_spawning", some "file:///w/a.sg"),
        ("analyzer_exited", some "file:///w/a.sg"),
        ("diagnostics_parse_error", some "file:///w/a.sg"),
        ("diagnostics_published", some "file:///w/a.sg")] ∧
    ((mixedSample.meetAll mixedRun).attempts.map fun a ↦ (a.id, a.stage.hasEnded,
      (mixedSample.meetAll mixedRun).boundIn a)) =
        [(1, true, none), (2, true, none), (3, true, none)] := by
  have hopened : mixedSample.Opened := ⟨_, _, _, _, _, rfl⟩
  exact ⟨hopened, attribution hopened mixedRun, by decide +kernel, by decide +kernel⟩

end Session

end DiagnosticFeed
