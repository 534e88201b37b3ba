import Mathlib.Data.List.Induction
import Mathlib.Data.List.Sort
import Exposure.Catalog.Containment
import Exposure.Proofs.Graph.Search

/-!
# Sound catalogs

A catalog is sound when its index and its graph are those of its entities and every entity fits
after the ones in front of it.  The empty catalog is sound and a call keeps a catalog sound,
accepted or refused, so everything that calls build is sound.  The rest of the file says what the
index and the graph of a sound catalog hold, in terms of its entities.
-/

namespace Exposure

/-- The scope of an entity is a class among the listed ones. -/
def Entity.InClass (es : List Entity) (e : Entity) : Prop :=
  ∃ s p, e.scope = some s ∧ es[s]? = some p ∧ p.kind = .classType

/-- An entity fits after the listed ones: its name is new, its scope is one of them, a method or a
field has a class as its scope, and so does exactly what has an access level. -/
structure Entity.Fits (es : List Entity) (e : Entity) : Prop where
  fresh : ∀ x ∈ es, x.name ≠ e.name
  scope_lt : ∀ s, e.scope = some s → s < es.length
  member : e.isMember = true → e.InClass es
  access : e.access.isSpecifier = true ↔ e.InClass es

namespace Catalog

variable {es : List Entity} {e : Entity} {q : QualifiedName} {i s : EntityId}

/-- Every entity fits after the ones in front of it. -/
def Admissible (es : List Entity) : Prop :=
  ∀ (i : EntityId) (e : Entity), es[i]? = some e → e.Fits (es.take i)

theorem admissible_nil : Admissible [] := by
  intro i e h
  simp at h

theorem Admissible.concat (h : Admissible es) (he : e.Fits es) : Admissible (es ++ [e]) := by
  intro i x hx
  rcases lt_trichotomy i es.length with hi | rfl | hi
  · rw [List.getElem?_append_left hi] at hx
    rw [List.take_append_of_le_length (le_of_lt hi)]
    exact h i x hx
  · simp only [List.getElem?_append_right le_rfl, Nat.sub_self, List.getElem?_cons_zero,
      Option.some.injEq] at hx
    subst hx
    simpa using he
  · have hlen : (es ++ [e]).length ≤ i := by
      rw [List.length_append, List.length_singleton]
      exact hi
    simp [List.getElem?_eq_none hlen] at hx

/-- A scope stands in front of its members. -/
theorem Admissible.scope_lt (h : Admissible es) (he : es[i]? = some e) (hs : e.scope = some s) :
    s < i := by
  have hlt := (h i e he).scope_lt s hs
  rw [List.length_take] at hlt
  exact (Nat.lt_min.mp hlt).1

/-- Whether an entity is in a class does not depend on the entities from its own place on. -/
theorem Admissible.inClass_take (h : Admissible es) (he : es[i]? = some e) :
    e.InClass (es.take i) ↔ e.InClass es := by
  constructor
  · rintro ⟨s, p, hs, hp, hk⟩
    rw [List.getElem?_take_of_lt (h.scope_lt he hs)] at hp
    exact ⟨s, p, hs, hp, hk⟩
  · rintro ⟨s, p, hs, hp, hk⟩
    refine ⟨s, p, hs, ?_, hk⟩
    rw [List.getElem?_take_of_lt (h.scope_lt he hs)]
    exact hp

/-- No two entities have the same name. -/
theorem Admissible.eq_of_name_eq (h : Admissible es) {j : EntityId} {f : Entity}
    (he : es[i]? = some e) (hf : es[j]? = some f) (hn : e.name = f.name) : i = j := by
  have key : ∀ {a b : EntityId} {x y : Entity}, es[a]? = some x → es[b]? = some y →
      x.name = y.name → ¬ a < b := by
    intro a b x y hx hy hxy hab
    refine (h b y hy).fresh x ?_ hxy
    exact List.mem_of_getElem? ((List.getElem?_take_of_lt hab).trans hx)
  exact Nat.le_antisymm (not_lt.mp (key hf he hn.symm)) (not_lt.mp (key he hf hn))

theorem Admissible.nodup_names (h : Admissible es) : (es.map Entity.name).Nodup := by
  rw [List.Nodup, List.pairwise_map, List.pairwise_iff_getElem]
  intro i j hi hj hij hn
  have heq := h.eq_of_name_eq (List.getElem?_eq_getElem hi) (List.getElem?_eq_getElem hj) hn
  exact absurd heq (ne_of_lt hij)

/-! ## The catalog of a list of entities -/

/-- The catalog whose index and graph are those of the listed entities. -/
def ofEntities (es : List Entity) : Catalog := es.foldl insert empty

@[simp] theorem ofEntities_concat (es : List Entity) (e : Entity) :
    ofEntities (es ++ [e]) = (ofEntities es).insert e := by
  simp [ofEntities]

@[simp] theorem entities_ofEntities (es : List Entity) : (ofEntities es).entities = es := by
  induction es using List.reverseRecOn with
  | nil => rfl
  | append_singleton es e ih => simp [ih]

@[simp] theorem size_ofEntities (es : List Entity) : (ofEntities es).size = es.length := by
  simp [size]

@[simp] theorem weights_ofEntities (es : List Entity) :
    (ofEntities es).containment.weights = List.range es.length := by
  induction es using List.reverseRecOn with
  | nil => rfl
  | append_singleton es e ih => simp [ih, List.range_succ]

@[simp] theorem order_ofEntities (es : List Entity) :
    (ofEntities es).containment.order = es.length := by
  simp [Graph.order]

/-- The index has the names of the entities and no others. -/
theorem lookup_ofEntities_eq_none_iff :
    (ofEntities es).lookup q = none ↔ ∀ x ∈ es, x.name ≠ q := by
  induction es using List.reverseRecOn with
  | nil => simp [ofEntities, lookup, empty]
  | append_singleton es e ih =>
      rw [ofEntities_concat, lookup_insert]
      by_cases h : e.name = q
      · simp [h]
      · simp [h, ih, or_imp, forall_and]

/-- The index has each name at the place of its entity. -/
theorem lookup_ofEntities_eq_some_iff (h : Admissible es) :
    (ofEntities es).lookup q = some i ↔ ∃ x, es[i]? = some x ∧ x.name = q := by
  -- the index never leads astray, whatever the names; that it leads anywhere needs them distinct
  suffices hto : ∀ fs : List Entity, ∀ j, (ofEntities fs).lookup q = some j →
      ∃ x, fs[j]? = some x ∧ x.name = q by
    refine ⟨hto es i, ?_⟩
    rintro ⟨x, hx, hn⟩
    cases hl : (ofEntities es).lookup q with
    | none => exact absurd hn (lookup_ofEntities_eq_none_iff.mp hl x (List.mem_of_getElem? hx))
    | some j =>
        obtain ⟨y, hy, hyn⟩ := hto es j hl
        rw [h.eq_of_name_eq hx hy (hn.trans hyn.symm)]
  intro fs
  induction fs using List.reverseRecOn with
  | nil => simp [ofEntities, lookup, empty]
  | append_singleton fs f ih =>
      intro j hj
      rw [ofEntities_concat, lookup_insert] at hj
      split at hj
      · rename_i hf
        rw [size_ofEntities, Option.some.injEq] at hj
        exact ⟨f, by simp [← hj], hf⟩
      · obtain ⟨x, hx, hn⟩ := ih j hj
        have hlt : j < fs.length := (List.getElem?_eq_some_iff.mp hx).1
        exact ⟨x, by rw [List.getElem?_append_left hlt, hx], hn⟩

/-- The graph has an edge from each scope to each of its members and no others. -/
theorem mem_edges_ofEntities {s i : Nat} :
    (s, i) ∈ (ofEntities es).containment.edges ↔ ∃ x, es[i]? = some x ∧ x.scope = some s := by
  induction es using List.reverseRecOn with
  | nil => simp [ofEntities, empty]
  | append_singleton es e ih =>
      rw [ofEntities_concat, edges_insert, List.mem_append, ih, order_ofEntities]
      rcases lt_trichotomy i es.length with hi | rfl | hi
      · rw [List.getElem?_append_left hi]
        simp [ne_of_gt hi]
      · simp
      · have h1 : es[i]? = none := List.getElem?_eq_none (le_of_lt hi)
        have h2 : (es ++ [e])[i]? = none :=
          List.getElem?_eq_none (by simpa using Nat.succ_le_of_lt hi)
        simp [h1, h2, ne_of_lt hi]

/-- The edges stand in the order of the entities to which they lead. -/
theorem sortedLT_edges_ofEntities (es : List Entity) :
    ((ofEntities es).containment.edges.map Prod.snd).SortedLT := by
  rw [List.sortedLT_iff_pairwise]
  induction es using List.reverseRecOn with
  | nil => exact List.Pairwise.nil
  | append_singleton es e ih =>
      rw [ofEntities_concat, edges_insert, order_ofEntities, List.map_append,
        List.pairwise_append]
      refine ⟨ih, ?_, ?_⟩
      · cases e.scope <;> simp
      · intro a ha b hb
        obtain ⟨⟨s, a⟩, hmem, rfl⟩ := List.mem_map.mp ha
        obtain ⟨x, hx, -⟩ := mem_edges_ofEntities.mp hmem
        have hb' : b = es.length := by
          cases hs : e.scope <;> simp [hs] at hb
          exact hb
        rw [hb']
        exact (List.getElem?_eq_some_iff.mp hx).1

/-! ## Calls -/

/-- An access level fits when methods and fields are in a class and exactly what is in a class has
an access level. -/
theorem accessProblem?_eq_none_iff (kind : EntityKind) (access : Access) (inClass : Bool) :
    accessProblem? kind access inClass = none ↔
      (kind.isMember = true → inClass = true) ∧
        (access.isSpecifier = true ↔ inClass = true) := by
  unfold accessProblem?
  cases kind.isMember <;> cases access.isSpecifier <;> cases inClass <;> simp

/-- Whether the scope of an entity is a class of the catalog. -/
def inClass (c : Catalog) (e : Entity) : Bool :=
  (e.scope.bind c.get?).any fun p => p.kind = .classType

theorem inClass_eq_true_iff {c : Catalog} : c.inClass e = true ↔ e.InClass c.entities := by
  rw [inClass, Option.any_eq_true]
  constructor
  · rintro ⟨p, hp, hk⟩
    obtain ⟨s, hs, hsp⟩ := Option.bind_eq_some_iff.mp hp
    exact ⟨s, p, hs, hsp, of_decide_eq_true hk⟩
  · rintro ⟨s, p, hs, hp, hk⟩
    exact ⟨p, Option.bind_eq_some_iff.mpr ⟨s, hs, hp⟩, decide_eq_true hk⟩

/-- An entity passes when its name is new, its scope is known and its access level fits. -/
theorem refusal?_eq_none_iff (c : Catalog) (e : Entity) :
    c.refusal? e = none ↔
      c.lookup e.name = none ∧ (∀ s, e.scope = some s → s < c.size) ∧
        accessProblem? e.kind e.access (c.inClass e) = none := by
  cases hl : c.lookup e.name with
  | some j =>
      have hc : c.index.contains e.name = true := Option.isSome_of_eq_some hl
      simp [refusal?, hc]
  | none =>
      have hc : c.index.contains e.name = false := Option.isSome_eq_false_iff.mpr <|
        Option.isNone_iff_eq_none.mpr hl
      cases hs : e.scope with
      | none => simp [refusal?, hc, hs, inClass]
      | some s =>
          cases hp : c.get? s with
          | none =>
              have hsize : ¬ s < c.size := by
                rw [← c.get?_isSome_iff, hp]
                exact Bool.false_ne_true
              simp [refusal?, hc, hs, hp, hsize]
          | some p =>
              have hsize : s < c.size := lt_size_iff.mpr ⟨p, hp⟩
              simp [refusal?, hc, hs, hp, hsize, inClass]

/-- Nothing is wrong with an entity exactly when it fits after the ones in the catalog. -/
theorem refusal?_ofEntities_eq_none_iff : (ofEntities es).refusal? e = none ↔ e.Fits es := by
  have hin : (ofEntities es).inClass e = true ↔ e.InClass es := by
    rw [inClass_eq_true_iff, entities_ofEntities]
  rw [refusal?_eq_none_iff, lookup_ofEntities_eq_none_iff, size_ofEntities,
    accessProblem?_eq_none_iff, hin]
  constructor
  · rintro ⟨hfresh, hscope, hmember, haccess⟩
    exact ⟨hfresh, hscope, hmember, haccess⟩
  · rintro ⟨hfresh, hscope, hmember, haccess⟩
    exact ⟨hfresh, hscope, hmember, haccess⟩

/-- The entity that a call asks for; there is none when its parent is unknown. -/
def requested (c : Catalog) : Call → Option Entity
  | .add e => some e
  | .addMember parent name kind access =>
      (c.get? parent).map fun p => ⟨p.name.child name, kind, access, some parent⟩

/-- A call is accepted when nothing is wrong with the entity that it asks for, which it then puts at
the end. -/
theorem attempt_eq_ok_iff {c : Catalog} {x : Call} {r : EntityId × Catalog} :
    c.attempt x = .ok r ↔
      ∃ e, c.requested x = some e ∧ c.refusal? e = none ∧ r = (c.size, c.insert e) := by
  cases x with
  | add e => simp [attempt, requested, add_eq_ok_iff]
  | addMember parent name kind access =>
      cases hp : c.get? parent with
      | none => simp [attempt, addMember, requested, hp]
      | some p => simp [attempt, addMember, requested, hp, add_eq_ok_iff]

/-- A catalog is sound when its index and its graph are those of its entities and every entity fits
after the ones in front of it. -/
structure Sound (c : Catalog) : Prop where
  canonical : ofEntities c.entities = c
  admissible : Admissible c.entities

theorem sound_empty : Sound empty := ⟨rfl, admissible_nil⟩

variable {c : Catalog}

theorem Sound.refusal?_eq_none_iff (h : c.Sound) : c.refusal? e = none ↔ e.Fits c.entities := by
  have hiff := @refusal?_ofEntities_eq_none_iff c.entities e
  rwa [h.canonical] at hiff

theorem Sound.insert (h : c.Sound) (he : e.Fits c.entities) : (c.insert e).Sound where
  canonical := by rw [entities_insert, ofEntities_concat, h.canonical]
  admissible := h.admissible.concat he

/-- A call keeps a catalog sound, accepted or refused. -/
theorem Sound.after (h : c.Sound) (x : Call) : (c.after x).Sound := by
  unfold Catalog.after
  split
  · rename_i i c' hx
    obtain ⟨e, -, hr, heq⟩ := attempt_eq_ok_iff.mp hx
    rw [(Prod.mk.inj heq).2]
    exact h.insert (h.refusal?_eq_none_iff.mp hr)
  · exact h

/-- Whatever calls build is sound. -/
theorem sound_build (calls : List Call) : (build calls).Sound := by
  suffices h : ∀ c : Catalog, c.Sound → (calls.foldl Catalog.after c).Sound from h _ sound_empty
  induction calls with
  | nil => exact fun _ h => h
  | cons x calls ih => exact fun c h => ih _ (h.after x)

/-! ## What a sound catalog holds -/

namespace Sound

/-- The index has each name at the place of its entity. -/
theorem lookup_eq_some_iff (h : c.Sound) :
    c.lookup q = some i ↔ ∃ x, c.get? i = some x ∧ x.name = q := by
  have hiff := @lookup_ofEntities_eq_some_iff c.entities q i h.admissible
  rwa [h.canonical] at hiff

theorem weights_eq (h : c.Sound) : c.containment.weights = List.range c.size := by
  have heq := weights_ofEntities c.entities
  rwa [h.canonical] at heq

/-- Every node of the graph weighs its own place. -/
theorem filterMap_weight? (h : c.Sound) {ids : List EntityId} (hids : ∀ j ∈ ids, j < c.size) :
    ids.filterMap c.containment.weight? = ids := by
  induction ids with
  | nil => rfl
  | cons j ids ih =>
      have hj : c.containment.weight? j = some j := by
        rw [Graph.weight?, h.weights_eq]
        simp [hids j List.mem_cons_self]
      rw [List.filterMap_cons_some hj, ih fun k hk => hids k (List.mem_cons_of_mem j hk)]

/-- The graph has an edge from each scope to each of its members and no others. -/
theorem adj_iff (h : c.Sound) : c.containment.Adj s i ↔ c.scope? i = some s := by
  have hiff := @mem_edges_ofEntities c.entities s i
  rw [h.canonical] at hiff
  rw [Graph.Adj, hiff, scope?, Option.bind_eq_some_iff]
  rfl

/-- A scope stands in front of its members. -/
theorem scope?_lt (h : c.Sound) (hs : c.scope? i = some s) : s < i := by
  obtain ⟨x, hx, hxs⟩ := Option.bind_eq_some_iff.mp hs
  exact h.admissible.scope_lt hx hxs

end Sound

/-- Only known entities have a scope. -/
theorem lt_size_of_scope? (hs : c.scope? i = some s) : i < c.size := by
  obtain ⟨x, hx, -⟩ := Option.bind_eq_some_iff.mp hs
  exact (List.getElem?_eq_some_iff.mp hx).1

end Catalog

end Exposure
