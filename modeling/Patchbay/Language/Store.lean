-- The scopes of a running program. A scope names values and knows the
-- scopes around it; a function keeps the scope it was made in by its place
-- in the store, so it sees names that come later.
import Patchbay.Language.Value

namespace Patchbay.Language

/-- The names of one scope, and the scopes around it, the nearest first. -/
structure Scope where
  bindings : Fields Value
  outward : List ScopeId

structure Store where
  scopes : Array Scope

namespace Store

def empty : Store := ⟨#[]⟩

/-- The names bound in a scope itself. -/
def bindings (st : Store) (s : ScopeId) : Fields Value :=
  (st.scopes[s]?).elim [] Scope.bindings

def outward (st : Store) (s : ScopeId) : List ScopeId :=
  (st.scopes[s]?).elim [] Scope.outward

/-- The value of a name in the nearest scope that binds it. -/
def lookup? (st : Store) (s : ScopeId) (name : String) : Option Value :=
  (s :: st.outward s).findSome? fun t => (st.bindings t).get? name

/-- A new scope with no scope around it. -/
def root (st : Store) : ScopeId × Store := (st.scopes.size, ⟨st.scopes.push ⟨[], []⟩⟩)

/-- A new scope inside `s`. -/
def child (st : Store) (s : ScopeId) : ScopeId × Store :=
  let outward := s :: st.outward s
  (st.scopes.size, ⟨st.scopes.push ⟨[], outward⟩⟩)

/-- Binds a name in `s`. A name that is bound there keeps its place. -/
def define (st : Store) (s : ScopeId) (name : String) (value : Value) : Store :=
  ⟨st.scopes.modify s fun scope => { scope with bindings := scope.bindings.set name value }⟩

/-- Unbinds all names of `s` itself. -/
def clear (st : Store) (s : ScopeId) : Store :=
  ⟨st.scopes.modify s fun scope => { scope with bindings := [] }⟩

/-- Binds all built-in functions in `s`. -/
def install (st : Store) (s : ScopeId) : Store :=
  Builtin.all.foldl (fun st b => st.define s b.name (.builtin b [])) st

/-- A new scope with the built-in functions and no scope around it. -/
def rootWithBuiltins (st : Store) : ScopeId × Store :=
  let (s, st) := st.root
  (s, st.install s)

end Store

end Patchbay.Language
