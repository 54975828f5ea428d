import RemoteUi.Client.Builder
import RemoteUi.Client.Link
import RemoteUi.Client.Report
import RemoteUi.Settings.Client

/-!
# The client

A client ties a window's tree to a server: each interaction that is reported makes one exchange,
and the reply is carried out on the tree.  In simulation mode nothing is sent.
-/

namespace RemoteUi

open RemoteUi.Wire

/-! ## §1 Clients -/

/-- How far the client has got with its latest exchange. -/
inductive Status where
  | idle
  | loading
  | running
  | done
  deriving DecidableEq, Repr

/-- The words for a status. -/
def Status.message : Status → String
  | .idle => ""
  | .loading => "Loading UI..."
  | .running => "Running UI..."
  | .done => "Done."

/-- A client with its window. -/
structure Client where
  tree : Tree := Tree.new
  link : Link := Link.new
  builder : Builder := Builder.new
  status : Status := .idle
  isSimulation : Bool := false

namespace Client

instance : Inhabited Client := ⟨{}⟩

/-- A link as the settings have it. -/
def linkOf (settings : ClientSettings) : Link :=
  { path := settings.requestPath, program := settings.program }

/-- A client as the settings have it, with an empty window. -/
def ofSettings (settings : ClientSettings) : Client :=
  { link := linkOf settings, isSimulation := settings.isSimulation }

/-! ## §2 Cycles -/

/-- Carries out a reply on the window. -/
def apply (client : Client) (reply : Reply) : Except Fault Unit × Client :=
  let client := { client with status := .running }
  match client.builder.run { tree := client.tree } reply with
  | (.ok _, builder, host) => (.ok (), { client with builder, tree := host.tree, status := .done })
  | (.error fault, builder, host) => (.error fault, { client with builder, tree := host.tree })

/-- One cycle: an exchange, and the reply carried out.  If either fails the client is idle. -/
def cycle {World : Type} (exchange : Link → World → Except Fault Reply × Link × World)
    (client : Client) (world : World) : Except Fault Unit × Client × World :=
  let client := { client with status := .loading }
  match exchange client.link world with
  | (.error fault, link, world) => (.error fault, { client with link, status := .idle }, world)
  | (.ok reply, link, world) =>
    match { client with link }.apply reply with
    | (.ok _, client) => (.ok (), client, world)
    | (.error fault, client) => (.error fault, { client with status := .idle }, world)

/-- Boots a program and shows its window. -/
def boot {World : Type} (conduit : Conduit World) (program : Option String) (client : Client)
    (world : World) : Except Fault Unit × Client × World :=
  if client.isSimulation then (.ok (), client, world)
  else client.cycle (Link.boot conduit program) world

/-- Reports an interaction and shows its outcome.  The answer is the event that it was reported
as, if it was. -/
def fire {World : Type} (conduit : Conduit World) (interaction : Interaction) (client : Client)
    (world : World) : Except Fault (Option Event) × Client × World :=
  match client.tree.report? interaction with
  | none => (.ok none, client, world)
  | some event =>
    if client.isSimulation then (.ok (some event), client, world)
    else
      match client.cycle (Link.report conduit event) world with
      | (.ok _, client, world) => (.ok (some event), client, world)
      | (.error fault, client, world) => (.error fault, client, world)

end Client

end RemoteUi
