import TunnelFailover.Outline
import TunnelFailover.Yaml.Document
/-!
This file bounds the work of a decoder. Every alias on its way costs one, and the allowance for a
document grows with its size, so that a short text cannot stand for data without end.
-/

namespace TunnelFailover.Yaml

namespace Document

/-- A decoder may follow a hundred aliases for every part of the document. -/
def allowance (document : Document) : Nat := 100 * document.root.size

/-- The node that a decoder finds, and what remains of the allowance. -/
def follow? (document : Document) (left : Nat) : Node → Option (Nat × Node)
  | .alias number =>
    match left with
    | 0 => none
    | left + 1 => do pure (left, ← document.anchored? number)
  | node => some (left, node)

/-- What remains of the allowance after a decoder has looked at a node by an outline. It looks at
all keys of a mapping, but not at the values of unknown fields. -/
def remaining? (document : Document) : Outline → (left : Nat) → Node → Option Nat
  | .whole, left, node => do pure (← document.follow? left node).1
  | .list item, left, node => do
    match ← document.follow? left node with
    | (left, .sequence _ items) =>
      items.foldlM (fun left node => remaining? document item left node) left
    | (left, _) => pure left
  | .named value, left, node => do
    match ← document.follow? left node with
    | (left, .mapping _ entries) =>
      entries.foldlM (fun left entry => do
        let (left, _) ← document.follow? left entry.1
        remaining? document value left entry.2) left
    | (left, _) => pure left
  | .record names field, left, node => do
    match ← document.follow? left node with
    | (left, .mapping _ entries) =>
      entries.foldlM (fun left entry => do
        match ← document.follow? left entry.1 with
        | (left, .scalar _ _ name) =>
          if names.contains name then remaining? document (field name) left entry.2
          else pure left
        | (left, _) => pure left) left
    | (left, _) => pure left

/-- The allowance is enough for a decoder that looks at the document by an outline. -/
def Affords (document : Document) (outline : Outline) : Prop :=
  (document.remaining? outline document.allowance document.root).isSome

instance (document : Document) (outline : Outline) : Decidable (document.Affords outline) :=
  inferInstanceAs (Decidable (_ = true))

end Document

end TunnelFailover.Yaml
