import RemoteUi.Client.Builder
import RemoteUi.Proofs.Tree.Attributes

/-!
# Passes that set one attribute

The replies to most events are short: no command at all, or one that sets a plain attribute.  Their
passes succeed on a host that refuses nothing, whatever an earlier pass left behind.
-/

namespace RemoteUi

open RemoteUi.Wire

/-- A key that stands for an attribute and for nothing else. -/
def isPlainKey (key : String) : Bool :=
  key ≠ textKey && !flagKeys.contains key && !operationKeys.contains key &&
    !propertyKeys.contains key && !lateKeys.contains key

/-- A builder between two passes knows the window's id and nothing else. -/
def Builder.rested (builder : Builder) : Builder := { window := builder.window }

/-- What follows a step that succeeds goes on from where the step led. -/
theorem Build.bind_of_ok {α β : Type} {step : Build α} {next : α → Build β} {site site' : Site}
    {a : α} (h : step site = .ok a site') : (step >>= next) site = next a site' := by
  simp only [bind, EStateM.bind, h]

variable (builder : Builder) (tree : Tree) (message : String)

/-- A pass goes by the lines of a reply, not by its text. -/
theorem Builder.run_message (builder : Builder) (host : Host) (text text' : String)
    (lines : List Line) : builder.run host ⟨text, lines⟩ = builder.run host ⟨text', lines⟩ := rfl

/-- A pass without commands changes nothing. -/
theorem Builder.run_nil :
    builder.run { tree } ⟨message, []⟩ = (.ok (), builder.rested, { tree }) := rfl

/-- A host that refuses nothing sets an attribute as the tree does. -/
theorem Host.setAttribute_of_ok {node : Handle} {key value : String} {tree' : Tree}
    (h : Tree.setAttribute node key value tree = .ok () tree') :
    ∃ host : Host, host.tree = tree' ∧
      Host.setAttribute node key value { tree } = .ok () host := by
  refine ⟨{ tree := tree', journal := [.setAttribute node key value] }, rfl, ?_⟩
  have hforward : Host.forward (Tree.setAttribute node key value)
      { tree, journal := [.setAttribute node key value] } =
        .ok () { tree := tree', journal := [.setAttribute node key value] } := by
    simp only [Host.forward, h]
  exact hforward

/-- **A pass that sets a plain attribute of an attached element does so and nothing else.** -/
theorem Builder.run_set {id : NodeId} {key value : String} {node : Handle} {tree' : Tree}
    (hkey : isPlainKey key) (hwindow : builder.window ≠ some id)
    (hlookup : tree.lookup? id = some node)
    (hset : Tree.setAttribute node key value tree = .ok () tree') :
    ∃ host : Host, host.tree = tree' ∧
      builder.run { tree } ⟨message, [(Command.set id key (some value)).toLine]⟩ =
        (.ok (), builder.rested, host) := by
  obtain ⟨host, htree, hhost⟩ := Host.setAttribute_of_ok tree hset
  refine ⟨host, htree, ?_⟩
  simp only [isPlainKey, Bool.and_eq_true, Bool.not_eq_true', decide_eq_true_eq] at hkey
  obtain ⟨⟨⟨⟨htext, hflag⟩, hoperation⟩, hproperty⟩, hlate⟩ := hkey
  -- The id denotes the element, since nothing was created in the pass.
  have hresolve : Build.resolve id ⟨builder.rested, { tree }⟩ =
      .ok node ⟨builder.rested, { tree }⟩ := by
    have hdenotes : Site.resolve? ⟨builder.rested, { tree }⟩ id = some node := by
      simp only [Site.resolve?, rested, hwindow, ↓reduceIte, hlookup]
      rfl
    unfold Build.resolve
    rw [get_bind_apply, hdenotes]
    rfl
  have hedit : Build.edit (Host.setAttribute node key value) ⟨builder.rested, { tree }⟩ =
      .ok () ⟨builder.rested, host⟩ := by
    simp only [Build.edit, hhost]
  have hsetKey : Build.setKey id key (some value) ⟨builder.rested, { tree }⟩ =
      .ok () ⟨builder.rested, host⟩ := by
    unfold Build.setKey
    rw [Build.bind_of_ok hresolve, if_neg htext, hflag, hoperation, hproperty]
    exact hedit
  have hperform : Build.perform (Command.set id key (some value)).toLine
      ⟨builder.rested, { tree }⟩ = .ok () ⟨builder.rested, host⟩ := by
    have hcommand : (Command.set id key (some value)).toLine.command =
        .set id key (some value) := rfl
    simp only [Build.perform, hcommand, hlate]
    exact hsetKey
  have hloop : [(Command.set id key (some value)).toLine].forM
      (fun line => Build.onLine line (Build.perform line)) ⟨builder.rested, { tree }⟩ =
        .ok () ⟨builder.rested, host⟩ := by
    have honLine : Build.onLine (Command.set id key (some value)).toLine
        (Build.perform (Command.set id key (some value)).toLine) ⟨builder.rested, { tree }⟩ =
          .ok () ⟨builder.rested, host⟩ := by
      simp only [Build.onLine, hperform]
    exact Build.bind_of_ok honLine
  -- Nothing is held back, and nothing was put aside.
  have hpass : Build.pass [(Command.set id key (some value)).toLine] ⟨builder, { tree }⟩ =
      .ok () ⟨builder.rested, host⟩ := by
    have hreset : Build.reset ⟨builder, { tree }⟩ = .ok () ⟨builder.rested, { tree }⟩ := rfl
    unfold Build.pass
    rw [Build.bind_of_ok hreset, Build.bind_of_ok hloop]
    rfl
  simp only [run, hpass]

end RemoteUi
