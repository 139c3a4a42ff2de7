import DeviceConfig.Document.Record
import DeviceConfig.FortiOs.Snippet
import DeviceConfig.Ios.Snippet
import DeviceConfig.RouterOs.Snippet

/-!
Snippets: ready commands for one action on one vendor's devices.
-/

namespace DeviceConfig.Snippet

open Document

structure Request where
  vendor : Vendor
  action : Action
  params : Params := {}
deriving Repr

instance : Recorded Request where
  Values := Vendor × Action × Params × Unit
  fields :=
    .required "vendor" <|
    .required "action" <|
    .plain "params" {} <|
    .done
  ofValues := fun (vendor, action, params, _) => { vendor, action, params }
  toValues request := (request.vendor, request.action, request.params, ())

/-- The lines of a snippet as one text, the empty ones left out. -/
def joinLines (lines : List String) : String := Text.unlines (lines.filter (!·.isEmpty))

def Request.generate (request : Request) : Except SnippetError String := do
  let lines ← match request.vendor with
    | .cisco => (Ios.script request.action request.params).output
    | .mikrotik => (RouterOs.script request.action request.params).output
    | .fortigate => FortiOs.snippetLines request.action request.params
    | .generic => .error (.unsupportedVendor request.vendor)
  return joinLines lines

end DeviceConfig.Snippet
