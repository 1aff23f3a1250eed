import Stencil.Value.Display

/-! The names of the kinds of values, as messages about misfits use them. -/

set_option autoImplicit false

namespace Stencil

/-- The name of the class of an object; the class of a provider is known to its host only. -/
def Object.className : Object → String
  | .host => "Pict"
  | .holding _ => "dict"
  | .patternTable => "MetaTemplate"
  | .resolver => "AddressResolver"
  | .provider _ => "PictTemplateExpression"
  | .log _ => "LoggerAdapter"
  | .logger name => if name = rootLogger then "RootLogger" else "Logger"
  | .loggerManager => "Manager"
  | .code _ => "RenderErrorCode"
  | .day _ => "date"
  | .moment _ => "datetime"
  | .method _ => "method"
  | .other className => className

def Value.kindName : Value → String
  | .null => "NoneType"
  | .bool _ => "bool"
  | .int _ => "int"
  | .float _ => "float"
  | .text _ => "str"
  | .list _ => "list"
  | .tuple _ => "tuple"
  | .dict _ => "dict"
  | .undefined => "_Undefined"
  | .record kind _ => kind.className
  | .object o => o.className

def Value.isSequence : Value → Bool
  | .text _ => true
  | .list _ => true
  | .tuple _ => true
  | _ => false

end Stencil
