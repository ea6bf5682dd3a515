import SqlTree.Node.Any

/-! # Nested sources and parameters

Joins hold sources and cursors hold parameters. These two principles give an induction hypothesis
for each of them. -/

namespace SqlTree

namespace TableSource

variable {δ : Type} {P : TableSource δ → Prop}

mutual

theorem nested_source (table : ∀ t, P (table t))
    (join : ∀ j : JoinSource δ, (∀ s ∈ j.left, P s) → (∀ s ∈ j.right, P s) → P (join j))
    (dialect : ∀ h kind parts, P (dialect h kind parts)) : (s : TableSource δ) → P s
  | .table t => table t
  | .join ⟨h, l, k, r, c, us, n⟩ =>
    join ⟨h, l, k, r, c, us, n⟩ (nested_side table join dialect l) (nested_side table join dialect r)
  | .dialect h kind parts => dialect h kind parts

theorem nested_side (table : ∀ t, P (.table t))
    (join : ∀ j : JoinSource δ, (∀ s ∈ j.left, P s) → (∀ s ∈ j.right, P s) → P (.join j))
    (dialect : ∀ h kind parts, P (.dialect h kind parts)) :
    (side : Option (TableSource δ)) → ∀ s ∈ side, P s
  | none => by simp
  | some s => by
    rintro _ ⟨⟩
    exact nested_source table join dialect s

end

@[elab_as_elim]
theorem nested (table : ∀ t, P (table t))
    (join : ∀ j : JoinSource δ, (∀ s ∈ j.left, P s) → (∀ s ∈ j.right, P s) → P (join j))
    (dialect : ∀ h kind parts, P (dialect h kind parts)) (s : TableSource δ) : P s :=
  nested_source table join dialect s

end TableSource

namespace Parameter

variable {P : Parameter → Prop}

mutual

theorem nested_parameter (h : ∀ p : Parameter, (∀ q ∈ p.parameters, P q) → P p) :
    (p : Parameter) → P p
  | ⟨i, n, t, d, dir, nc, k, c, ps⟩ => h ⟨i, n, t, d, dir, nc, k, c, ps⟩ (nested_each h ps)

theorem nested_each (h : ∀ p : Parameter, (∀ q ∈ p.parameters, P q) → P p) :
    (ps : List Parameter) → ∀ q ∈ ps, P q
  | [] => by simp
  | p :: ps => by
    have hp := nested_parameter h p
    have hps := nested_each h ps
    intro q hq
    rcases List.mem_cons.mp hq with rfl | hq
    · exact hp
    · exact hps q hq

end

@[elab_as_elim]
theorem nested (parameter : ∀ p : Parameter, (∀ q ∈ p.parameters, P q) → P p) (p : Parameter) :
    P p :=
  nested_parameter parameter p

end Parameter

end SqlTree
