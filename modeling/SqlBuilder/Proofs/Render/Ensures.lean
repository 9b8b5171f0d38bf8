import SqlBuilder.Render

set_option autoImplicit false

/-! # Rules for renderings

What a composed rendering does with what was collected before it: one equation for each way in which
renderings are put together, and from these the rules for two kinds of postconditions. A rendering
*ensures* a postcondition if, whatever was collected before, its result and the values that it binds
satisfy the postcondition whenever it succeeds, so what a statement's text looks like is proved clause
by clause. A rendering without subqueries *succeeds with* a postcondition if it also always gives a
result and changes nothing else. -/

namespace SqlBuilder.Render

variable {α β : Type}

/-! ## Runs -/

theorem run_pure (a : α) (before : Bindings) : (pure a : Render α).run before = (.ok a, before) := rfl

theorem run_throw (e : QueryError) (before : Bindings) :
    (throw e : Render α).run before = (.error e, before) := rfl

theorem run_bind (r : Render α) (f : α → Render β) (before : Bindings) :
    (r >>= f).run before =
      match r.run before with
      | (.ok a, after) => (f a).run after
      | (.error e, after) => (.error e, after) := by
  show (match ExceptT.run r before with | (a, after) => (ExceptT.bindCont f a) after) = _
  rcases ExceptT.run r before with ⟨_ | a, after⟩ <;> rfl

theorem run_map (f : α → β) (r : Render α) (before : Bindings) :
    (f <$> r).run before = ((r.run before).1.map f, (r.run before).2) := by
  rw [← bind_pure_comp, run_bind]
  rcases r.run before with ⟨_ | a, after⟩ <;> rfl

theorem run_bindAll (values : List Value) (before : Bindings) :
    (bindAll values).run before
      = (.ok (), { before with params := before.params ++ values }) := rfl

theorem run_subquery (r : Render String) (before : Bindings) :
    (subquery r).run before =
      match r.run { nested := before.nested } with
      | (.ok sql, inner) =>
        (.ok ("(" ++ sql ++ ")"),
          { params := before.params ++ inner.params,
            nested := inner.nested ++ [inner.params.length] })
      | (.error e, inner) => (.error e, { before with nested := inner.nested }) := rfl

/-! ## Postconditions of renderings that succeed -/

/-- If the rendering succeeds, its result and the values that it adds satisfy the postcondition. -/
def Ensures (r : Render α) (post : α → List Value → Prop) : Prop :=
  ∀ (before : Bindings) (a : α) (after : Bindings), r.run before = (.ok a, after) →
    ∃ params, after.params = before.params ++ params ∧ post a params

namespace Ensures

theorem pure {post : α → List Value → Prop} {a : α} (h : post a []) :
    Ensures (Pure.pure a) post := by
  intro before b after run
  cases run
  exact ⟨[], by simp, h⟩

theorem throw {post : α → List Value → Prop} (e : QueryError) :
    Ensures (MonadExcept.throw e) post := by
  intro before a after run
  cases run

theorem bindAll (values : List Value) : Ensures (bindAll values) fun _ params => params = values := by
  intro before a after run
  rw [run_bindAll] at run
  cases run
  exact ⟨values, rfl, rfl⟩

/-- A first rendering hands its result on to a second one, whose values follow. -/
theorem bind {first : α → List Value → Prop} {post : β → List Value → Prop} {r : Render α}
    {f : α → Render β} (hr : Ensures r first)
    (hf : ∀ a params, first a params → Ensures (f a) fun b more => post b (params ++ more)) :
    Ensures (r >>= f) post := by
  intro before b after run
  rw [run_bind] at run
  split at run
  · rename_i a middle first_run
    obtain ⟨params, hmiddle, ha⟩ := hr before a middle first_run
    obtain ⟨more, hafter, hb⟩ := hf a params ha middle b after run
    exact ⟨params ++ more, by rw [hafter, hmiddle, List.append_assoc], hb⟩
  · cases run

/-- The last step of a rendering changes its result and binds nothing more. -/
theorem bind_pure {first : α → List Value → Prop} {post : β → List Value → Prop} {r : Render α}
    {f : α → β} (hr : Ensures r first) (hf : ∀ a params, first a params → post (f a) params) :
    Ensures (r >>= fun a => Pure.pure (f a)) post := by
  refine hr.bind fun a params h => .pure ?_
  simpa using hf a params h

theorem mono {first post : α → List Value → Prop} {r : Render α} (hr : Ensures r first)
    (h : ∀ a params, first a params → post a params) : Ensures r post := by
  intro before a after run
  obtain ⟨params, hafter, ha⟩ := hr before a after run
  exact ⟨params, hafter, h a params ha⟩

theorem placeholder (v : Value) :
    Ensures (placeholder v) fun sql params => sql = "?" ∧ params = [v] := by
  refine (bindAll [v]).bind_pure fun _ params h => ?_
  exact ⟨rfl, h⟩

/-- A subquery collects what it would collect on its own. -/
theorem subquery {post : String → List Value → Prop} {r : Render String}
    (hr : Ensures r fun sql params => post ("(" ++ sql ++ ")") params) :
    Ensures (subquery r) post := by
  intro before sql after run
  rw [run_subquery] at run
  split at run
  · rename_i inner_sql inner inner_run
    cases run
    obtain ⟨params, hinner, h⟩ := hr _ _ _ inner_run
    -- the inner run starts without values, so all that it has collected is its own
    refine ⟨params, ?_, h⟩
    simp [hinner]
  · cases run

/-- A fragment yields what it expands to. -/
theorem fragment (fragment : Fragment) :
    Ensures fragment.render fun sql params => fragment.expand = .ok (sql, params) := by
  unfold Fragment.render
  split
  · rename_i sql params expands
    refine (bindAll params).bind_pure fun _ ps h => ?_
    rw [expands, h]
  · exact .throw _

end Ensures

/-! ## Renderings that always succeed -/

/-- The rendering gives a result, and its result and the values that it adds satisfy the
postcondition. -/
def Succeeds (r : Render α) (post : α → List Value → Prop) : Prop :=
  ∀ before : Bindings, ∃ a params,
    r.run before = (.ok a, { before with params := before.params ++ params }) ∧ post a params

namespace Succeeds

theorem pure {post : α → List Value → Prop} {a : α} (h : post a []) :
    Succeeds (Pure.pure a) post := by
  intro before
  exact ⟨a, [], by rw [run_pure, List.append_nil], h⟩

/-- A first rendering hands its result on to a second one, whose values follow. -/
theorem bind {first : α → List Value → Prop} {post : β → List Value → Prop} {r : Render α}
    {f : α → Render β} (hr : Succeeds r first)
    (hf : ∀ a params, first a params → Succeeds (f a) fun b more => post b (params ++ more)) :
    Succeeds (r >>= f) post := by
  intro before
  obtain ⟨a, params, run, ha⟩ := hr before
  obtain ⟨b, more, run', hb⟩ := hf a params ha { before with params := before.params ++ params }
  refine ⟨b, params ++ more, ?_, hb⟩
  rw [run_bind, run]
  rw [List.append_assoc] at run'
  exact run'

/-- The last step of a rendering changes its result and binds nothing more. -/
theorem bind_pure {first : α → List Value → Prop} {post : β → List Value → Prop} {r : Render α}
    {f : α → β} (hr : Succeeds r first) (hf : ∀ a params, first a params → post (f a) params) :
    Succeeds (r >>= fun a => Pure.pure (f a)) post := by
  refine hr.bind fun a params h => .pure ?_
  simpa using hf a params h

theorem mono {first post : α → List Value → Prop} {r : Render α} (hr : Succeeds r first)
    (h : ∀ a params, first a params → post a params) : Succeeds r post := by
  intro before
  obtain ⟨a, params, run, ha⟩ := hr before
  exact ⟨a, params, run, h a params ha⟩

theorem bindAll (values : List Value) :
    Succeeds (bindAll values) fun _ params => params = values :=
  fun before => ⟨(), values, run_bindAll values before, rfl⟩

theorem placeholder (v : Value) :
    Succeeds (placeholder v) fun sql params => sql = "?" ∧ params = [v] := by
  refine (bindAll [v]).bind_pure fun _ params h => ?_
  exact ⟨rfl, h⟩

/-- A fragment that expands yields what it expands to. -/
theorem fragment {fragment : Fragment} {text : String} {values : List Value}
    (expands : fragment.expand = .ok (text, values)) :
    Succeeds fragment.render fun sql params => sql = text ∧ params = values := by
  rw [Fragment.render, expands]
  refine (bindAll values).bind_pure fun _ params h => ?_
  exact ⟨rfl, h⟩

end Succeeds

end SqlBuilder.Render
