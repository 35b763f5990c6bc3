import FormMarkup.Field.Defaults
import FormMarkup.Field.Order
import FormMarkup.Form.Tag
import FormMarkup.Render.Controls
import FormMarkup.Render.Groups

namespace FormMarkup

open FormMarkup.Markup

structure Rendered where
  items : List Item := []
  warnings : List Warning := []
  deriving DecidableEq, Repr, Inhabited

namespace Rendered

def html (r : Rendered) : String :=
  write r.items

instance : Append Rendered :=
  ⟨fun a b => ⟨a.items ++ b.items, a.warnings ++ b.warnings⟩⟩

def join : List Rendered → Rendered
  | [] => {}
  | r :: rs => r ++ join rs

theorem items_append (a b : Rendered) : (a ++ b).items = a.items ++ b.items := rfl

theorem warnings_append (a b : Rendered) : (a ++ b).warnings = a.warnings ++ b.warnings := rfl

end Rendered

abbrev TokenEmitter := String → String → String

structure Renderer where
  settings : Settings := {}
  emitter : Option TokenEmitter := none

namespace Renderer

def nonce (r : Renderer) (n : Nonce) : Rendered :=
  match r.emitter with
  | none => ⟨[], [.noTokenEmitter n.name]⟩
  | some emit => ⟨[.raw (emit n.name n.action)], []⟩

def complete (r : Renderer) : Field → Rendered
  | .input type f => ⟨f.items r.settings type, nameWarnings (f.extraAttributes.getD [])⟩
  | .textArea f => ⟨f.items r.settings, nameWarnings f.extraAttributes⟩
  | .file f => ⟨f.items r.settings, nameWarnings f.extraAttributes⟩
  | .select f => ⟨f.items r.settings, nameWarnings f.extraAttributes⟩
  | .checkbox g => ⟨g.items r.settings, g.choices.flatMap fun c => nameWarnings c.extraAttributes⟩
  | .radio g => ⟨g.items r.settings, g.choices.flatMap fun c => nameWarnings c.extraAttributes⟩
  | .switch f => ⟨f.items r.settings, nameWarnings f.extraAttributes⟩
  | .hidden f => ⟨HiddenPair.listItems f.pairs, if f.pairs.isEmpty then [.noPairs] else []⟩
  | .nonce n => r.nonce n
  | .submit b => ⟨b.items r.settings, []⟩
  | .unknown => ⟨[], [.unknownType]⟩

def field (r : Renderer) (f : Field) : Rendered :=
  r.complete (f.withDefaults r.settings)

def fields (r : Renderer) (fs : List Field) : Rendered :=
  Rendered.join ((orderFields fs).map r.field)

def form (r : Renderer) (fs : List Field) (tag : FormTag) : Rendered :=
  match fs with
  | [] => {}
  | fs => ⟨tag.opening r.settings, []⟩ ++ r.fields fs ++ ⟨FormTag.closing, []⟩

end Renderer

end FormMarkup
