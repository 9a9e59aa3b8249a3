import ObjectStore.Proofs.Query.Registrations
import ObjectStore.Session.Basic
import ObjectStore.Tables.Store

/-!
# Registering classes in a session

A session that registers a declaration goes on with a registry that has grown by all of the declaration, or with the one that it had. What was compiled at some point of a run is compiled to the same at every later point.
-/

namespace ObjectStore.Session

variable {σ : Type} {session : Session σ} {d : ClassDeclaration}

/-- The session after the declarations have been registered one after the other, as far as they could be. -/
def registerAll (session : Session σ) (declarations : List ClassDeclaration) : Session σ :=
  declarations.foldl (fun session d => (session.registerClass d).2) session

theorem registerAll_append (session : Session σ) (first second : List ClassDeclaration) :
    session.registerAll (first ++ second) = (session.registerAll first).registerAll second :=
  List.foldl_append

/-! ### One registration -/

theorem registerClass_cases (session : Session σ) (d : ClassDeclaration) :
    (∃ c registry, session.registry.registerDeclaration d = (.ok c, registry) ∧
      session.registerClass d = (.ok c, { session with registry })) ∨
    ∃ e, session.registerClass d = (.error e, session) := by
  rcases hd : session.registry.registerDeclaration d with ⟨e | c, registry⟩
  · right
    exact ⟨.compile e, by simp only [registerClass, hd]⟩
  · left
    exact ⟨c, registry, rfl, by simp only [registerClass, hd]⟩

theorem registerClass_eq_error {e : Error} (h : (session.registerClass d).1 = .error e) :
    (session.registerClass d).2 = session := by
  obtain ⟨c, registry, -, hd⟩ | ⟨e', hd⟩ := session.registerClass_cases d
  · rw [hd] at h
    cases h
  · rw [hd]

/-- A declaration that was registered has added its class and all those inside of it. -/
theorem registerClass_eq_ok {c : ClassType} (h : (session.registerClass d).1 = .ok c) :
    ∃ inner, (Registry.declared none d).mapM Registry.transcribe = .ok (c :: inner) ∧
      (session.registerClass d).2.registry.classes = session.registry.classes ++ c :: inner := by
  obtain ⟨c', registry, hregistered, hd⟩ | ⟨e, hd⟩ := session.registerClass_cases d
  · rw [hd] at h ⊢
    cases h
    exact Registry.added_of_registerDeclaration hregistered
  · rw [hd] at h
    cases h

theorem registerClass_grown (session : Session σ) (d : ClassDeclaration) :
    session.registry.Grown (session.registerClass d).2.registry := by
  obtain ⟨c, registry, hregistered, hd⟩ | ⟨e, hd⟩ := session.registerClass_cases d
  · have hgrown := Registry.grown_of_registerDeclaration session.registry d
    rw [hregistered] at hgrown
    rw [hd]
    exact hgrown
  · rw [hd]
    exact .refl

/-! ### Runs -/

theorem registerAll_grown (session : Session σ) (declarations : List ClassDeclaration) :
    session.registry.Grown (session.registerAll declarations).registry := by
  induction declarations generalizing session with
  | nil => exact .refl
  | cons d rest ih => exact (registerClass_grown session d).trans (ih _)

theorem compile_of_grown {later : Session σ} (h : session.registry.Grown later.registry) {query : Query}
    {bindings : Bindings} {compiled : CompiledQuery} (hcompiled : session.compile query bindings = .ok compiled) :
    later.compile query bindings = .ok compiled := by
  rw [compile, mapError_eq_ok] at hcompiled ⊢
  exact Query.compile_keeps h query bindings compiled hcompiled

/-- In a run of registrations, a declaration that is refused leaves the session as it was, and one that is registered adds its own class and all those inside of it, in their order. What is found, compiled or applied at some point of the run is so at every later point. At every point the names are distinct, and each class is found under its own name and no other. -/
theorem registrations_only_grow (session : Session σ) (declarations : List ClassDeclaration)
    (hbuilt : session.registry.Built) :
    (∀ before d after, declarations = before ++ d :: after →
      let current := session.registerAll before
      let next := (current.registerClass d).2
      match (current.registerClass d).1 with
      | .error _ => next = current
      | .ok c => ∃ inner, (Registry.declared none d).mapM Registry.transcribe = .ok (c :: inner) ∧
          next.registry.classes = current.registry.classes ++ c :: inner) ∧
    (∀ before between after, declarations = before ++ between ++ after →
      let earlier := session.registerAll before
      let later := session.registerAll (before ++ between)
      (∀ name c, earlier.registry.lookup? name = some c → later.registry.lookup? name = some c) ∧
      (∀ query bindings compiled, earlier.compile query bindings = .ok compiled →
        later.compile query bindings = .ok compiled) ∧
      ∀ intent target, earlier.registry.resolve intent.target = .ok target →
        ∀ (τ : Type) (store : Store τ) mode deadline world,
          Dml.execute store mode deadline later.registry intent world =
            Dml.execute store mode deadline earlier.registry intent world) ∧
    ∀ before after, declarations = before ++ after →
      let registry := (session.registerAll before).registry
      registry.names.Nodup ∧
        ∀ name c, registry.lookup? name = some c ↔ c ∈ registry.classes ∧ c.name = name := by
  refine ⟨fun before d after _ => ?_, fun before between after _ => ?_, fun before after _ => ?_⟩
  · intro current next
    split
    · next e he => exact registerClass_eq_error he
    · next c hc => exact registerClass_eq_ok hc
  · intro earlier later
    have hgrown : earlier.registry.Grown later.registry := by
      have hbetween := registerAll_grown earlier between
      rwa [← registerAll_append] at hbetween
    exact ⟨fun name c => hgrown.lookup?, fun query bindings compiled => compile_of_grown hgrown,
      fun intent target htarget τ => Dml.execute_of_grown hgrown htarget⟩
  · intro registry
    have hregistry : registry.Built := hbuilt.trans (registerAll_grown session before)
    exact ⟨Registry.built_iff.1 hregistry, fun name c => hregistry.lookup?_eq_some_iff⟩

/-- A class with a class in a class. -/
def orderClass : ClassDeclaration :=
  { (default : ClassDeclaration) with
    name := "Order"
    body := [.innerClass { (default : ClassDeclaration) with
      name := "Line", body := [.innerClass { (default : ClassDeclaration) with name := "Tax" }] }] }

/-- A class with two classes of the same name, the second of which is refused when the first has been registered. -/
def brokenShop : ClassDeclaration :=
  { (default : ClassDeclaration) with
    name := "Shop"
    body := [.innerClass { (default : ClassDeclaration) with name := "Till" },
      .innerClass { (default : ClassDeclaration) with name := "Till" }] }

def newSession : Session Tables.Database := ⟨.builtin, Tables.store, Config.inMemory⟩

theorem brokenShop_leaves_orders :
    Registry.builtin.Built ∧
      ((newSession.registerAll [orderClass]).registerClass brokenShop).1 =
        .error (.compile (.duplicateClass "Shop.Till")) ∧
      ((newSession.registerAll [orderClass]).registerClass brokenShop).2 = newSession.registerAll [orderClass] ∧
      (newSession.registerAll [orderClass, brokenShop]).registry.names =
        Registry.builtin.names ++ ["Order", "Order.Line", "Order.Line.Tax"] ∧
      (newSession.registerAll [orderClass, brokenShop]).registry.lookup? "System" = some Native.system := by
  have hrefused : ((newSession.registerAll [orderClass]).registerClass brokenShop).1 =
      .error (.compile (.duplicateClass "Shop.Till")) := by rfl
  obtain ⟨hcalls, hlater, -⟩ := registrations_only_grow newSession [orderClass, brokenShop] Registry.builtin_built
  have hunchanged := hcalls [orderClass] brokenShop [] rfl
  dsimp only at hunchanged
  rw [hrefused] at hunchanged
  have hsystem : newSession.registry.lookup? "System" = some Native.system := by rfl
  refine ⟨Registry.builtin_built, hrefused, hunchanged, by decide +kernel, ?_⟩
  exact (hlater [] [orderClass, brokenShop] [] rfl).1 "System" Native.system hsystem

end ObjectStore.Session
