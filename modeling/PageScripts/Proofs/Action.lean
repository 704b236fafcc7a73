import PageScripts.Proofs.Store

/-!
# Actions that follow a plan

An action on a store reads catalogs, works a result out of them, and then writes.  What it reads
and when is of no further interest; what matters is said by a plan, a function of the shelves.

* `Reads action view`: the action only reads, and its result is the view's.
* `Follows action plan`: the action comes to the result of the plan and makes its changes.

Each has one rule for each way in which actions are put together, so that the plan of an
operation is found along its text and never by running it.
-/

namespace PageScripts

/-- A result with the changes that go with it. -/
abbrev Outcome (α : Type) := α × List Change

namespace Session

/-- An outcome, come to in a session after some reading.  A broken table refuses changes. -/
def settle
    {α : Type}
    (session : Session)
    (reads : List Access)
    (notices : List Notice) :
    Except Fault (Outcome α) → Except Fault α × Session
  | .error fault => (.error fault, session.advance reads notices)
  | .ok (result, changes) =>
      if changes ≠ [] ∧ session.medium = .brokenTable then
        (.error .statement, session.advance reads notices)
      else
        (.ok result, session.advance (reads ++ changes.map Change.access) notices)

/-- A sound store takes all changes. -/
theorem settle_of_intact
    {α : Type}
    {session : Session}
    (hintact : session.medium ≠ .brokenTable)
    (reads : List Access)
    (notices : List Notice)
    (result : α)
    (changes : List Change) :
    session.settle reads notices (.ok (result, changes)) =
      (.ok result, session.advance (reads ++ changes.map Change.access) notices) := by
  simp [settle, hintact]

/-- What was read before goes with the reading of an outcome. -/
theorem settle_advance
    {α : Type}
    (session : Session)
    (first second : List Access)
    (before after : List Notice)
    (outcome : Except Fault (Outcome α)) :
    (session.advance first before).settle second after outcome =
      session.settle (first ++ second) (before ++ after) outcome := by
  cases outcome with
  | error fault =>
      simp [settle]
  | ok come =>
      simp [settle]

/-- A result is the one that the outcome names. -/
theorem ok_of_settle
    {α : Type}
    {session : Session}
    {reads : List Access}
    {notices : List Notice}
    {outcome : Except Fault (Outcome α)}
    {result : α}
    (h : (session.settle reads notices outcome).1 = .ok result) :
    ∃ changes, outcome = .ok (result, changes) := by
  cases outcome with
  | error fault =>
      cases h
  | ok come =>
      obtain ⟨named, changes⟩ := come
      unfold settle at h
      by_cases hrefused : changes ≠ [] ∧ session.medium = .brokenTable
      · simp only [if_pos hrefused] at h
        cases h
      · simp only [if_neg hrefused] at h
        cases h
        exact ⟨changes, rfl⟩

/-- Where there is no result, there was only reading. -/
theorem settle_of_error
    {α : Type}
    {session : Session}
    {reads : List Access}
    {notices : List Notice}
    {outcome : Except Fault (Outcome α)}
    {fault : Fault}
    (h : (session.settle reads notices outcome).1 = .error fault) :
    session.settle reads notices outcome = (.error fault, session.advance reads notices) := by
  cases outcome with
  | error cause =>
      cases h
      rfl
  | ok come =>
      unfold settle at h ⊢
      by_cases hrefused : come.2 ≠ [] ∧ session.medium = .brokenTable
      · simp only [if_pos hrefused] at h ⊢
        cases h
        rfl
      · simp only [if_neg hrefused] at h
        cases h

end Session

namespace Action

variable {α β : Type}

/-- Accesses that only read. -/
def OnlyReads (accesses : List Access) : Prop :=
  ∀ access ∈ accesses, access.isWrite = false

theorem OnlyReads.nil :
    OnlyReads [] := by
  intro access h
  cases h

theorem OnlyReads.append
    {first second : List Access}
    (hfirst : OnlyReads first)
    (hsecond : OnlyReads second) :
    OnlyReads (first ++ second) := by
  intro access h
  rcases List.mem_append.mp h with h | h
  · exact hfirst access h
  · exact hsecond access h

/-- The action only reads, and its result is what the view makes of the shelves. -/
def Reads
    (action : Action α)
    (view : Shelves → Except Fault α) :
    Prop :=
  ∀ session, ∃ reads notices, OnlyReads reads ∧
    action.run session = (view session.shelves, session.advance reads notices)

/-- The action comes to what the plan says. -/
def Follows
    (action : Action α)
    (plan : Shelves → Except Fault (Outcome α)) :
    Prop :=
  ∀ session, ∃ reads notices, OnlyReads reads ∧
    action.run session = session.settle reads notices (plan session.shelves)

/-- The result of reading is the view's. -/
theorem Reads.result
    {action : Action α}
    {view : Shelves → Except Fault α}
    (h : Reads action view)
    (session : Session) :
    (action.run session).1 = view session.shelves := by
  obtain ⟨reads, notices, -, hrun⟩ := h session
  rw [hrun]

/-! ## Running composed actions -/

theorem run_bind
    {ε σ : Type}
    (action : ExceptT ε (StateM σ) α)
    (next : α → ExceptT ε (StateM σ) β)
    (state : σ) :
    (action >>= next).run state =
      match action.run state with
      | (.ok a, after) => (next a).run after
      | (.error fault, after) => (.error fault, after) := by
  have h : (action >>= next).run state =
      ExceptT.bindCont next (action.run state).1 (action.run state).2 := rfl
  rw [h]
  rcases action.run state with ⟨_ | _, _⟩ <;> rfl

@[simp]
theorem run_pure
    (result : α)
    (session : Session) :
    (pure result : Action α).run session = (.ok result, session) :=
  rfl

@[simp]
theorem run_lift
    (result : Except Fault α)
    (session : Session) :
    (liftM result : Action α).run session = (result, session) :=
  rfl

@[simp]
theorem run_get (session : Session) :
    (get : Action Session).run session = (.ok session, session) :=
  rfl

@[simp]
theorem run_modify
    (f : Session → Session)
    (session : Session) :
    (modify f : Action Unit).run session = (.ok (), f session) :=
  rfl

/-! ## Rules for reading -/

theorem Reads.pure (result : α) :
    Reads (pure result) (fun _ => .ok result) := by
  intro session
  exact ⟨[], [], .nil, by simp⟩

theorem Reads.throw (fault : Fault) :
    Reads (throw fault : Action α) (fun _ => .error fault) := by
  intro session
  exact ⟨[], [], .nil, by simp; rfl⟩

theorem Reads.lift (result : Except Fault α) :
    Reads (liftM result) (fun _ => result) := by
  intro session
  exact ⟨[], [], .nil, by simp⟩

theorem Reads.bind
    {action : Action α}
    {next : α → Action β}
    {view : Shelves → Except Fault α}
    {views : α → Shelves → Except Fault β}
    (haction : Reads action view)
    (hnext : ∀ a, Reads (next a) (views a)) :
    Reads (action >>= next) (fun shelves => view shelves >>= fun a => views a shelves) := by
  intro session
  obtain ⟨reads, notices, hreads, hrun⟩ := haction session
  rw [run_bind, hrun]
  cases hview : view session.shelves with
  | error fault =>
      refine ⟨reads, notices, hreads, ?_⟩
      simp only [hview]
      rfl
  | ok a =>
      obtain ⟨more, further, hmore, hrest⟩ := hnext a (session.advance reads notices)
      rw [Session.shelves_advance_reads session notices hreads,
        Session.advance_advance] at hrest
      refine ⟨reads ++ more, notices ++ further, hreads.append hmore, ?_⟩
      simp only [hview, hrest]
      rfl

theorem Reads.mapM
    {act : α → Action β}
    {view : α → Shelves → Except Fault β}
    (h : ∀ a, Reads (act a) (view a))
    (items : List α) :
    Reads (items.mapM act) (fun shelves => items.mapM fun a => view a shelves) := by
  induction items with
  | nil =>
      exact Reads.pure []
  | cons a rest ih =>
      simp only [List.mapM_cons]
      exact (h a).bind fun b => ih.bind fun bs => Reads.pure (b :: bs)

theorem Reads.ite
    {condition : Prop}
    [Decidable condition]
    {first second : Action α}
    {firstView secondView : Shelves → Except Fault α}
    (hfirst : Reads first firstView)
    (hsecond : Reads second secondView) :
    Reads (if condition then first else second)
      (fun shelves => if condition then firstView shelves else secondView shelves) := by
  by_cases h : condition
  · simpa only [if_pos h] using hfirst
  · simpa only [if_neg h] using hsecond

/-- Notices leave the options alone. -/
theorem run_notifyAll
    (notices : List Notice)
    (session : Session) :
    (notices.forM Store.notify : Action Unit).run session =
      (.ok (), session.advance [] notices) := by
  induction notices generalizing session with
  | nil =>
      rw [Session.advance_nil]
      rfl
  | cons notice rest ih =>
      have hrest := ih (session.advance [] [notice])
      rw [Session.advance_advance] at hrest
      refine Eq.trans ?_ hrest
      simp only [Session.advance, List.foldl_nil, List.append_nil]
      rfl

theorem Reads.notifyAll (notices : List Notice) :
    Reads (notices.forM Store.notify) (fun _ => .ok ()) := by
  intro session
  exact ⟨[], notices, .nil, run_notifyAll notices session⟩

/-! ## Reading and writing options -/

theorem run_touch_of_broken
    (access : Access)
    {session : Session}
    (h : session.medium = .brokenTable) :
    (Store.touch access).run session = (.error .statement, session) := by
  have hget : (Store.touch access).run session =
      (if session.medium = .brokenTable then
        throw .statement
      else
        set { session with accesses := session.accesses ++ [access] } : Action Unit).run
          session := rfl
  rw [hget, if_pos h]
  rfl

theorem run_touch
    (access : Access)
    {session : Session}
    (h : session.medium ≠ .brokenTable) :
    (Store.touch access).run session =
      (.ok (), { session with accesses := session.accesses ++ [access] }) := by
  have hget : (Store.touch access).run session =
      (if session.medium = .brokenTable then
        throw .statement
      else
        set { session with accesses := session.accesses ++ [access] } : Action Unit).run
          session := rfl
  rw [hget, if_neg h]
  rfl

/-- An option is read as the medium gives it back. -/
theorem run_read
    (name : String)
    (missing : Json)
    {session : Session}
    (h : session.medium ≠ .brokenTable) :
    (Store.read name missing).run session =
      (match session.options.value? name with
        | none => .ok missing
        | some value => session.medium.readBack value,
        session.advance [.select name] []) := by
  simp only [Store.read, run_bind, run_touch _ h, run_get]
  cases session.options.value? name <;> simp [Session.advance, Access.apply]

/-- A catalog is read off its shelf. -/
theorem Reads.raw (name : CatalogName) :
    Reads (Catalog.raw name) (fun shelves => shelves name) := by
  intro session
  by_cases hbroken : session.medium = .brokenTable
  · refine ⟨[], [], .nil, ?_⟩
    simp only [Catalog.raw, Store.read, run_bind, run_touch_of_broken _ hbroken,
      Session.shelves, if_pos hbroken, Session.advance_nil]
  · refine ⟨[.select name.option], [], ?_, ?_⟩
    · intro access h
      rw [List.mem_singleton.mp h]
      rfl
    · rw [Session.shelves_of_intact hbroken]
      simp only [Catalog.raw, run_bind, run_read _ _ hbroken, Session.stored]
      cases session.options.value? name.option with
      | none =>
          rfl
      | some value =>
          cases hread : session.medium.readBack value with
          | error fault =>
              simp only [hread]
              rfl
          | ok json =>
              simp only [hread]
              rfl

/-! ## Rules for following a plan -/

/-- Reading is a plan without changes. -/
theorem Reads.follows
    {action : Action α}
    {view : Shelves → Except Fault α}
    (h : Reads action view) :
    Follows action (fun shelves => (view shelves).map fun a => (a, [])) := by
  intro session
  obtain ⟨reads, notices, hreads, hrun⟩ := h session
  refine ⟨reads, notices, hreads, ?_⟩
  rw [hrun]
  dsimp only
  cases view session.shelves with
  | error fault =>
      rfl
  | ok a =>
      simp [Except.map, Session.settle]

/-- What is read first is handed on to the plan of the rest. -/
theorem Reads.bind_follows
    {action : Action α}
    {next : α → Action β}
    {view : Shelves → Except Fault α}
    {plans : α → Shelves → Except Fault (Outcome β)}
    (haction : Reads action view)
    (hnext : ∀ a, Follows (next a) (plans a)) :
    Follows (action >>= next) (fun shelves => view shelves >>= fun a => plans a shelves) := by
  intro session
  obtain ⟨reads, notices, hreads, hrun⟩ := haction session
  rw [run_bind, hrun]
  cases hview : view session.shelves with
  | error fault =>
      refine ⟨reads, notices, hreads, ?_⟩
      simp only [hview]
      rfl
  | ok a =>
      obtain ⟨more, further, hmore, hrest⟩ := hnext a (session.advance reads notices)
      rw [Session.shelves_advance_reads session notices hreads] at hrest
      refine ⟨reads ++ more, notices ++ further, hreads.append hmore, ?_⟩
      simp only [hview, hrest, Session.settle_advance]
      rfl

/-! ## Rules for writing -/

/-- The action reads nothing: it makes the changes and gives the result. -/
def Writes
    (action : Action α)
    (result : α)
    (changes : List Change) :
    Prop :=
  ∀ session, action.run session = session.settle [] [] (.ok (result, changes))

theorem Writes.pure (result : α) :
    Writes (pure result) result [] := by
  intro session
  simp [Session.settle]

/-- A write to a catalog, unless a broken table refuses it. -/
theorem run_write
    (name : CatalogName)
    (records : Fields)
    {session : Session}
    (h : session.medium ≠ .brokenTable) :
    (Catalog.write name records).run session =
      (.ok (), session.advance [(Change.replace name records).access] []) := by
  simp [Catalog.write, Store.write, run_bind, run_touch _ h, Session.advance, Access.apply,
    Change.access]

theorem run_drop
    (name : CatalogName)
    {session : Session}
    (h : session.medium ≠ .brokenTable) :
    (Catalog.drop name).run session =
      (.ok (), session.advance [(Change.drop name).access] []) := by
  simp [Catalog.drop, Store.delete, run_bind, run_touch _ h, Session.advance, Access.apply,
    Change.access]

theorem Writes.write
    (name : CatalogName)
    (records : Fields) :
    Writes (Catalog.write name records) () [.replace name records] := by
  intro session
  by_cases hbroken : session.medium = .brokenTable
  · simp [Catalog.write, Store.write, run_bind, run_touch_of_broken _ hbroken, Session.settle,
      hbroken]
  · simp [run_write _ _ hbroken, Session.settle, hbroken]

theorem Writes.write_bind
    (name : CatalogName)
    (records : Fields)
    {next : Action α}
    {result : α}
    {changes : List Change}
    (h : Writes next result changes) :
    Writes (Catalog.write name records >>= fun _ => next) result
      (.replace name records :: changes) := by
  intro session
  by_cases hbroken : session.medium = .brokenTable
  · simp [run_bind, Catalog.write, Store.write, run_touch_of_broken _ hbroken, Session.settle,
      hbroken]
  · rw [run_bind, run_write _ _ hbroken]
    dsimp only
    rw [h]
    simp [Session.settle, hbroken]

theorem Writes.drop (name : CatalogName) :
    Writes (Catalog.drop name) () [.drop name] := by
  intro session
  by_cases hbroken : session.medium = .brokenTable
  · simp [Catalog.drop, Store.delete, run_bind, run_touch_of_broken _ hbroken, Session.settle,
      hbroken]
  · simp [run_drop _ hbroken, Session.settle, hbroken]

/-- Writing alone is a plan that does not look at the shelves. -/
theorem Writes.follows
    {action : Action α}
    {result : α}
    {changes : List Change}
    (h : Writes action result changes) :
    Follows action (fun _ => .ok (result, changes)) := by
  intro session
  exact ⟨[], [], .nil, h session⟩

theorem Follows.ite
    {condition : Prop}
    [Decidable condition]
    {first second : Action α}
    {firstPlan secondPlan : Shelves → Except Fault (Outcome α)}
    (hfirst : Follows first firstPlan)
    (hsecond : Follows second secondPlan) :
    Follows (if condition then first else second)
      (fun shelves => if condition then firstPlan shelves else secondPlan shelves) := by
  by_cases h : condition
  · simpa only [if_pos h] using hfirst
  · simpa only [if_neg h] using hsecond

end Action
end PageScripts
