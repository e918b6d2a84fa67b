/-
# Histories of kept connections

Requests and insertions come one after another, and at every request handles may answer or not and
the connector may give what it likes.  What is kept after any history is what has been supplied in
it, inserted or newly made, the latest handle under each text (`handles_run`); so a handle that is
given out for a text was supplied for it, and the texts with a handle are those supplied.

`ask` is a request in which the calls of handles and of the connector are made one by one, and
`traced` notes them.  What comes of it is what comes of `request`.  A kept handle is checked, and if
it answers, this is the only call (`traced_of_answers`); otherwise the connector is called once, with
the text that was asked for (`traced_of_not_answers`).
-/
import DocTables.Connections
import DocTables.Proofs.Fields
import Mathlib.Data.Finset.Card
import Mathlib.Data.Finset.Dedup

namespace DocTables

/-! ## 1. How many fields there are -/

namespace Fields

variable {α : Type}

/-- There are as many fields as different names have been inserted. -/
theorem size_ofList (es : List (String × α)) :
    (ofList es).size = (es.map Prod.fst).toFinset.card := by
  have hkeys : (ofList es).keys.toFinset = (es.map Prod.fst).toFinset := by
    ext key
    rw [List.mem_toFinset, List.mem_toFinset, ofList, mem_keys_foldl_insert]
    simp [keys, empty]
  rw [← hkeys, List.toFinset_card_of_nodup (distinct_ofList es), keys, List.length_map, size]

end Fields

namespace Connections

variable {α : Type}

/-! ## 2. Requests call by call -/

/-- A call that a request makes of what is outside. -/
inductive Call (α : Type) where
  /-- Whether a handle answers. -/
  | check (handle : α)
  /-- A handle for a connection text. -/
  | connect (connection : String)

/-- The connection text with which the connector is called. -/
def Call.connection? : Call α → Option String
  | .check _ => none
  | .connect connection => some connection

/-- Have a handle made and keep it. -/
def make {m : Type → Type} [Monad m] (c : Connections α)
    (connect : String → m (Except StoreError α)) (connection : String) :
    m (Reply α × Connections α) := do
  match ← connect connection with
  | .ok handle => return (.made (.ok handle), c.insert connection handle)
  | .error e => return (.made (.error e), c)

/-- Ask for a handle, where handles and the connector are called in the order that `m` gives to
effects. -/
def ask {m : Type → Type} [Monad m] (c : Connections α) (answers : α → m Bool)
    (connect : String → m (Except StoreError α)) (connection : String) :
    m (Reply α × Connections α) := do
  match c.get? connection with
  | some handle => if ← answers handle then return (.kept handle, c) else c.make connect connection
  | none => c.make connect connection

/-- A call and the answer to it, with a note of the call. -/
def noted {β : Type} (call : Call α) (answer : β) : StateM (List (Call α)) β :=
  fun calls => (answer, calls ++ [call])

/-- What comes of a request, and the calls that it makes. -/
def traced (c : Connections α) (answers : α → Bool) (connect : String → Except StoreError α)
    (connection : String) : (Reply α × Connections α) × List (Call α) :=
  (c.ask (fun handle => noted (.check handle) (answers handle))
    (fun text => noted (.connect text) (connect text)) connection).run []

section Requests

variable (c : Connections α) (answers : α → Bool) (connect : String → Except StoreError α)
  (connection : String)

/-- There is a handle that answers, or none. -/
theorem answers_or_not :
    (∃ handle, c.get? connection = some handle ∧ answers handle = true) ∨
      ∀ handle, c.get? connection = some handle → answers handle = false := by
  by_cases h : ∃ handle, c.get? connection = some handle ∧ answers handle = true
  · exact .inl h
  · exact .inr fun handle kept => by simpa using fun alive => h ⟨handle, kept, alive⟩

theorem request_of_answers {handle : α} (kept : c.get? connection = some handle)
    (alive : answers handle = true) :
    c.request answers connect connection = (.kept handle, c) := by
  have hsome : (c.get? connection).filter answers = some handle := by
    rw [kept, Option.filter_some, if_pos alive]
  rw [request, hsome]

theorem request_of_not_answers
    (dead : ∀ handle, c.get? connection = some handle → answers handle = false) :
    c.request answers connect connection =
      (.made (connect connection),
        match connect connection with
        | .ok handle => c.insert connection handle
        | .error _ => c) := by
  have hnone : (c.get? connection).filter answers = none := by
    rw [Option.filter_eq_none_iff]
    exact fun handle h => by simp [dead handle h]
  unfold request
  split
  · rename_i handle hsome
    exact nomatch hnone.symm.trans hsome
  · rfl

/-- A handle that is made is made with one call of the connector. -/
theorem make_noted (calls : List (Call α)) :
    (c.make (fun text => noted (.connect text) (connect text)) connection).run calls =
      ((.made (connect connection),
        match connect connection with
        | .ok handle => c.insert connection handle
        | .error _ => c), calls ++ [.connect connection]) := by
  have hbind : (c.make (fun text => noted (.connect text) (connect text)) connection).run calls =
      (match connect connection with
        | .ok handle => pure (.made (.ok handle), c.insert connection handle)
        | .error e => pure (.made (.error e), c) :
        StateM (List (Call α)) (Reply α × Connections α)).run (calls ++ [.connect connection]) := rfl
  rw [hbind]
  cases connect connection <;> rfl

/-- A handle that is kept is checked before anything else. -/
theorem traced_of_get? {handle : α} (kept : c.get? connection = some handle) :
    c.traced answers connect connection =
      if answers handle then ((.kept handle, c), [.check handle])
      else (c.make (fun text => noted (.connect text) (connect text)) connection).run
        [.check handle] := by
  have hbind : c.traced answers connect connection =
      (if answers handle then pure (.kept handle, c)
        else c.make (fun text => noted (.connect text) (connect text)) connection :
        StateM (List (Call α)) (Reply α × Connections α)).run [.check handle] := by
    rw [traced, ask, kept]
    rfl
  rw [hbind]
  cases answers handle <;> rfl

theorem traced_of_answers {handle : α} (kept : c.get? connection = some handle)
    (alive : answers handle = true) :
    c.traced answers connect connection =
      (c.request answers connect connection, [.check handle]) := by
  rw [request_of_answers _ _ _ _ kept alive, traced_of_get? _ _ _ _ kept, if_pos alive]

theorem traced_of_not_answers
    (dead : ∀ handle, c.get? connection = some handle → answers handle = false) :
    c.traced answers connect connection =
      (c.request answers connect connection,
        (c.get? connection).toList.map .check ++ [.connect connection]) := by
  rw [request_of_not_answers _ _ _ _ dead]
  cases kept : c.get? connection with
  | none =>
    rw [traced, ask, kept]
    exact c.make_noted connect connection []
  | some handle =>
    rw [traced_of_get? _ _ _ _ kept, dead handle kept, if_neg Bool.false_ne_true]
    exact c.make_noted connect connection [.check handle]

end Requests

/-! ## 3. Histories -/

/-- What happens to kept connections: a handle is put in, or one is asked for at a moment with its
own handles that answer and its own connector. -/
inductive Event (α : Type) where
  | insert (connection : String) (handle : α)
  | request (connection : String) (answers : α → Bool)
      (connect : String → Except StoreError α)

namespace Event

/-- The connection text that an event is about. -/
def about : Event α → String
  | .insert connection _ => connection
  | .request connection _ _ => connection

/-- What is kept after an event. -/
def apply (c : Connections α) : Event α → Connections α
  | .insert connection handle => c.insert connection handle
  | .request connection answers connect => (c.request answers connect connection).2

/-- The handle that an event supplies: the one that is put in, or the one that the connector makes
because none is kept that answers. -/
def supply? (c : Connections α) : Event α → Option α
  | .insert _ handle => some handle
  | .request connection answers connect =>
    if (c.get? connection).any answers then none else (connect connection).toOption

theorem supply?_of_not_answers (c : Connections α) (answers : α → Bool)
    (connect : String → Except StoreError α) (connection : String)
    (dead : ∀ handle, c.get? connection = some handle → answers handle = false) :
    (Event.request connection answers connect).supply? c = (connect connection).toOption := by
  have hany : (c.get? connection).any answers = false := by
    cases kept : c.get? connection with
    | none => rfl
    | some handle => exact dead handle kept
  simp [supply?, hany]

/-- **An event** keeps the handle that it supplies under its text, and does nothing else. -/
theorem apply_eq (c : Connections α) (e : Event α) :
    e.apply c = ((e.supply? c).map (c.insert e.about)).getD c := by
  cases e with
  | insert connection handle => rfl
  | request connection answers connect =>
    rcases c.answers_or_not answers connection with ⟨handle, kept, alive⟩ | dead
    · simp [apply, supply?, request_of_answers _ _ _ _ kept alive, kept, alive]
    · simp only [apply, supply?_of_not_answers _ _ _ _ dead, request_of_not_answers _ _ _ _ dead]
      cases connect connection <;> rfl

end Event

/-- The handles that are supplied from some point on, with their texts. -/
def suppliesFrom : Connections α → List (Event α) → List (String × α)
  | _, [] => []
  | c, e :: events =>
    (e.supply? c).toList.map (fun handle => (e.about, handle)) ++
      suppliesFrom (e.apply c) events

/-- What is kept after a history. -/
def run (events : List (Event α)) : Connections α := events.foldl (fun c e => e.apply c) empty

/-- The handles that are supplied in a history, with their texts. -/
def supplies (events : List (Event α)) : List (String × α) := suppliesFrom empty events

theorem handles_foldl : ∀ (events : List (Event α)) (c : Connections α),
    (events.foldl (fun c e => e.apply c) c).handles =
      (c.suppliesFrom events).foldl (fun f e => f.insert e.1 e.2) c.handles
  | [], _ => rfl
  | e :: events, c => by
    rw [List.foldl_cons, handles_foldl events, suppliesFrom, List.foldl_append, e.apply_eq]
    cases e.supply? c <;> rfl

/-- **What is kept after a history** is what has been supplied in it. -/
theorem handles_run (events : List (Event α)) :
    (run events).handles = Fields.ofList (supplies events) := handles_foldl events empty

theorem suppliesFrom_append : ∀ (earlier later : List (Event α)) (c : Connections α),
    c.suppliesFrom (earlier ++ later) =
      c.suppliesFrom earlier ++ (earlier.foldl (fun c e => e.apply c) c).suppliesFrom later
  | [], _, _ => rfl
  | e :: earlier, later, c => by
    rw [List.cons_append, suppliesFrom, suppliesFrom_append earlier, suppliesFrom,
      List.append_assoc, List.foldl_cons]

/-- The handle under a text is the latest that has been supplied for it. -/
theorem get?_run (events : List (Event α)) (connection : String) :
    (run events).get? connection = (supplies events).reverse.lookup connection := by
  rw [get?, handles_run, Fields.ofList, Fields.get?_foldl_insert_reverse]
  exact Option.or_none

/-- A handle that is kept has been supplied. -/
theorem mem_supplies_of_get? {events : List (Event α)} {connection : String} {handle : α}
    (h : (run events).get? connection = some handle) : (connection, handle) ∈ supplies events := by
  rw [get?_run] at h
  obtain ⟨before, after, hsupplies, -⟩ := List.lookup_eq_some_iff.mp h
  have hmem : (connection, handle) ∈ (supplies events).reverse := by simp [hsupplies]
  exact List.mem_reverse.mp hmem

/-- What is kept under a text stays as long as nothing is supplied for the text. -/
theorem get?_foldl_of_not_supplied {c : Connections α} {events : List (Event α)}
    {connection : String} (h : ∀ supply ∈ c.suppliesFrom events, supply.1 ≠ connection) :
    (events.foldl (fun c e => e.apply c) c).get? connection = c.get? connection := by
  have hnone : (c.suppliesFrom events).reverse.lookup connection = none := by
    rw [List.lookup_eq_none_iff]
    intro supply hsupply
    simpa using Ne.symm (h supply (List.mem_reverse.mp hsupply))
  rw [get?, handles_foldl, Fields.get?_foldl_insert_reverse, hnone, Option.none_or]
  rfl

theorem run_concat (events : List (Event α)) (e : Event α) :
    run (events ++ [e]) = e.apply (run events) := by
  rw [run, List.foldl_append]
  rfl

theorem supplies_concat (events : List (Event α)) (e : Event α) :
    supplies (events ++ [e]) =
      supplies events ++ (e.supply? (run events)).toList.map (fun handle => (e.about, handle)) := by
  rw [supplies, suppliesFrom_append, suppliesFrom, suppliesFrom, List.append_nil]
  rfl

/-- Other texts keep what they have. -/
theorem get?_run_concat_of_ne (events : List (Event α)) (e : Event α) {other : String}
    (h : other ≠ e.about) : (run (events ++ [e])).get? other = (run events).get? other := by
  rw [run_concat, e.apply_eq]
  cases e.supply? (run events) with
  | none => rfl
  | some handle => exact (run events).handles.get?_insert_of_ne h handle

/-- As many handles are kept as handles have been supplied for different texts. -/
theorem size_run (events : List (Event α)) :
    (run events).size = ((supplies events).map Prod.fst).toFinset.card := by
  rw [size, handles_run, Fields.size_ofList]

section Requests

variable {events : List (Event α)} {answers : α → Bool} {connect : String → Except StoreError α}
  {connection : String} {handle : α}

/-- A handle that is given out has been supplied for the text. -/
theorem mem_supplies_of_result
    (h : ((run events).request answers connect connection).1.result = .ok handle) :
    (connection, handle) ∈ supplies (events ++ [.request connection answers connect]) := by
  rw [supplies_concat]
  rcases (run events).answers_or_not answers connection with ⟨kept, hkept, alive⟩ | dead
  · rw [request_of_answers _ _ _ _ hkept alive] at h
    obtain rfl : kept = handle := Except.ok.inj h
    exact List.mem_append_left _ (mem_supplies_of_get? hkept)
  · rw [request_of_not_answers _ _ _ _ dead] at h
    have hconnect : connect connection = .ok handle := h
    rw [Event.supply?_of_not_answers _ _ _ _ dead, hconnect]
    exact List.mem_append_right _ (List.mem_singleton_self _)

/-- A handle that has been made is kept until another one is supplied for the text. -/
theorem get?_run_of_made
    (dead : ∀ handle, (run events).get? connection = some handle → answers handle = false)
    (hconnect : connect connection = .ok handle) {later : List (Event α)}
    (hlater : ∀ supply ∈ (run (events ++ [.request connection answers connect])).suppliesFrom later,
      supply.1 ≠ connection) :
    (run (events ++ .request connection answers connect :: later)).get? connection =
      some handle := by
  have hmade : run (events ++ [.request connection answers connect]) =
      (run events).insert connection handle := by
    rw [run_concat, Event.apply, request_of_not_answers _ _ _ _ dead, hconnect]
  have hstays := get?_foldl_of_not_supplied hlater
  rw [hmade] at hstays
  rw [List.append_cons, run, List.foldl_append, ← run, hmade, hstays]
  exact (run events).handles.get?_insert_self connection handle

end Requests

/-- **A request after any history.**  The handle that is kept is given out, and the connector is
not called, exactly if there is one and it answers.  Otherwise the connector is called once, with the
text that is asked for; a handle that it makes is given out and kept from then on, until another one
is supplied for the text, and if it fails, its error is given out and nothing has changed.  A handle
that is given out has been supplied for the text, no event changes what is kept under the texts of
others, and as many handles are kept as handles have been supplied for different texts. -/
theorem request_run (events : List (Event α)) (answers : α → Bool)
    (connect : String → Except StoreError α) (connection : String) :
    let before := run events
    let request := Event.request connection answers connect
    let after := run (events ++ [request])
    let reply := (before.request answers connect connection).1
    let calls := (before.traced answers connect connection).2
    let answering := ∃ handle, before.get? connection = some handle ∧ answers handle = true
    (before.traced answers connect connection).1 = (reply, after) ∧
      (calls.filterMap Call.connection? = [] ↔ answering) ∧
      (∀ handle, before.get? connection = some handle → answers handle = true →
        reply.result = .ok handle ∧ after = before) ∧
      (¬answering → calls.filterMap Call.connection? = [connection] ∧
        reply.result = connect connection ∧
        (∀ handle, connect connection = .ok handle → ∀ later,
          (∀ supply ∈ after.suppliesFrom later, supply.1 ≠ connection) →
            (run (events ++ request :: later)).get? connection = some handle) ∧
        (∀ e, connect connection = .error e → after = before)) ∧
      (∀ handle, reply.result = .ok handle →
        (connection, handle) ∈ supplies (events ++ [request])) ∧
      (∀ (e : Event α) (other : String), other ≠ e.about →
        (run (events ++ [e])).get? other = before.get? other) ∧
      before.size = ((supplies events).map Prod.fst).toFinset.card := by
  intro before request after reply calls answering
  have hafter : after = (before.request answers connect connection).2 := run_concat events request
  have hothers (e : Event α) (other : String) (h : other ≠ e.about) :
      (run (events ++ [e])).get? other = before.get? other := get?_run_concat_of_ne events e h
  have hsupplied (handle : α) (h : reply.result = .ok handle) :
      (connection, handle) ∈ supplies (events ++ [request]) := mem_supplies_of_result h
  rcases before.answers_or_not answers connection with ⟨handle, kept, alive⟩ | dead
  · have hrequest := before.request_of_answers answers connect connection kept alive
    have htraced := before.traced_of_answers answers connect connection kept alive
    have hanswering : answering := ⟨handle, kept, alive⟩
    have hcalls : calls = [.check handle] := congrArg Prod.snd htraced
    refine ⟨?_, ?_, ?_, fun h => absurd hanswering h, hsupplied, hothers, size_run events⟩
    · rw [htraced, hafter]
    · simp [hcalls, Call.connection?, hanswering]
    · intro other hkept _
      obtain rfl : handle = other := Option.some.inj (kept.symm.trans hkept)
      exact ⟨congrArg (·.1.result) hrequest, hafter.trans (congrArg Prod.snd hrequest)⟩
  · have hrequest := before.request_of_not_answers answers connect connection dead
    have htraced := before.traced_of_not_answers answers connect connection dead
    have hanswering : ¬answering := by
      rintro ⟨handle, kept, alive⟩
      simp [dead handle kept] at alive
    have hcalls : calls.filterMap Call.connection? = [connection] := by
      rw [show calls = _ from congrArg Prod.snd htraced]
      cases before.get? connection <;> rfl
    refine ⟨?_, ?_, ?_, fun _ => ⟨hcalls, congrArg (·.1.result) hrequest, ?_, ?_⟩, hsupplied,
      hothers, size_run events⟩
    · rw [htraced, hafter]
    · simp [hcalls, hanswering]
    · exact fun handle kept alive => absurd ⟨handle, kept, alive⟩ hanswering
    · exact fun handle hconnect later hlater => get?_run_of_made dead hconnect hlater
    · intro e hconnect
      rw [hafter, hrequest, hconnect]

/-- A handle that no longer answers is replaced, and what is kept under other texts does not
matter. -/
theorem request_run_replaces :
    (run [.insert "mem://a" 1, .request "mem://a" (fun _ => false) (fun _ => .ok 2),
      .insert "mem://b" 3]).get? "mem://a" = some 2 :=
  have hrequest := request_run [.insert "mem://a" 1] (fun _ => false) (fun _ => .ok 2) "mem://a"
  have hdead : ¬∃ handle, (run [.insert "mem://a" 1]).get? "mem://a" = some handle ∧
      (fun _ : Nat => false) handle = true := fun ⟨_, _, h⟩ => Bool.false_ne_true h
  (hrequest.2.2.2.1 hdead).2.2.1 2 rfl [.insert "mem://b" 3] (by decide)

end Connections

end DocTables
