import VramOvercommit.Engine.Basic

set_option autoImplicit false

/-! Questions about a context that change nothing and ask no driver. -/

namespace VramOvercommit.Engine

/-- Physical memory committed through the engine. -/
def totalUsage (engine : Engine) : Nat := engine.budget.residentUsage

def vbar (engine : Engine) (handle : Handle) : Except Error Vbar :=
  match engine.vbars.get? handle with
  | some vbar => .ok vbar
  | none => .error .invalidHandle

/-- Bytes of a VBAR that are backed. -/
def loadedSize (engine : Engine) (handle : Handle) : Except Error Nat :=
  return (← engine.vbar handle).residentCount * engine.config.vbarPageSize

/-- Whether a page is backed; a page beyond the end is not. -/
def isResident (engine : Engine) (handle : Handle) (index : Nat) : Except Error Bool :=
  return ((← engine.vbar handle).pages[index]?.map Page.isResident).getD false

/-- Whether a page is pinned; a page beyond the end is not. -/
def isPinned (engine : Engine) (handle : Handle) (index : Nat) : Except Error Bool :=
  return ((← engine.vbar handle).pages[index]?.map Page.pinned).getD false

def buffer (engine : Engine) (base : Nat) : Except Error Buffer :=
  match engine.buffers.get? base with
  | some buffer => .ok buffer
  | none => .error .invalidHandle

end VramOvercommit.Engine
