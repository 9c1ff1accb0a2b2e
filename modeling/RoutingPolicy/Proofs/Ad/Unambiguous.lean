import RoutingPolicy.Proofs.Ad.ExprReader

/-!
# The text of an expression determines its meaning

Parentheses stand only where precedence asks for them, names and texts are quoted only where they
must be, and still two expressions with one text are the same up to minus signs that may belong to a
number: the reader of `ExprReader` recovers either from the text. So they have the same value on
every job ad.
-/

set_option autoImplicit false

namespace RoutingPolicy.Expr

open Text

theorem settles_readAt_render (e : Expr) :
    Settles (fun fuel => readAt fuel 0 e.render.toList) (e.folded, []) := by
  have reads := ((readsBack e).whole 0 (Nat.zero_le _)).settles ends_nil
  rwa [List.append_nil] at reads

/-- Expressions with the same text are equal after folding, and their values on any job ad have the
same text. -/
theorem folded_eq_and_eval_of_render_eq {a b : Expr} (same : a.render = b.render) :
    a.folded = b.folded ∧ ∀ ad : JobAd, (ad.eval a).render = (ad.eval b).render := by
  have left := settles_readAt_render a
  have right := settles_readAt_render b
  rw [← same] at right
  have folded_same : a.folded = b.folded := (Prod.mk.inj (left.unique right)).1
  refine ⟨folded_same, fun ad => ?_⟩
  rw [← ad.eval_folded a, folded_same, ad.eval_folded b]

/-- The negation of a number and the negative number look alike, and so do operations on them. -/
theorem folded_eq_and_eval_of_negative_five :
    (-int 5 - named "A").render = (int (-5) - named "A").render ∧
      (-int 5 - named "A").folded = (int (-5) - named "A").folded ∧
        ∀ ad : JobAd, (ad.eval (-int 5 - named "A")).render =
          (ad.eval (int (-5) - named "A")).render :=
  have same : (-int 5 - named "A").render = (int (-5) - named "A").render := by decide +kernel
  ⟨same, folded_eq_and_eval_of_render_eq same⟩

end RoutingPolicy.Expr
