/-! Classes of simple values, which of them accept values of another, and which of them convert. -/

namespace TypedPath

/-- The class of a simple value. `object` says nothing about a value, `content` is structured data
without a known record. -/
inductive ValueClass where
  | boolean
  | string
  | integer
  | long
  | float
  | double
  | decimal
  | number
  | date
  | object
  | content
  | list (component : ValueClass)
  | array (component : ValueClass)
  deriving DecidableEq, Repr

namespace ValueClass

def isNumber : ValueClass → Bool
  | integer | long | float | double | decimal | number => true
  | _ => false

def isBoolean : ValueClass → Bool
  | boolean => true
  | _ => false

def isString : ValueClass → Bool
  | string => true
  | _ => false

/-- Whether the values have an order of their own. The general `number` has none: its values may be
of different concrete classes. -/
def isComparable : ValueClass → Bool
  | boolean | string | integer | long | float | double | decimal | date => true
  | _ => false

def isIterable : ValueClass → Bool
  | list _ | array _ => true
  | _ => false

def isUnconstrained : ValueClass → Bool
  | object => true
  | _ => false

def component? : ValueClass → Option ValueClass
  | list component | array component => some component
  | _ => none

/-- Whether a value of the second class may stand where the first is declared. -/
def accepts : ValueClass → ValueClass → Bool
  | object, _ => true
  | number, given => given.isNumber
  | list declared, list given => declared.accepts given
  | array declared, array given => declared.accepts given
  | declared, given => declared == given

/-- Whether values convert from one class to another: to whatever accepts them, between numbers,
from comparable values to text and from text to numbers, booleans and dates, between dates and long
integers, and between collections as their items do. Booleans are no numbers. -/
def convertsTo (given wanted : ValueClass) : Bool :=
  wanted.accepts given ||
    given.isNumber && wanted.isNumber ||
    match given, wanted with
    | given, string => given.isComparable
    | string, wanted => wanted.isNumber || wanted.isBoolean || wanted == date
    | date, long => true
    | long, date => true
    | list given, list wanted => given.convertsTo wanted
    | list given, array wanted => given.convertsTo wanted
    | array given, list wanted => given.convertsTo wanted
    | array given, array wanted => given.convertsTo wanted
    | _, _ => false
termination_by structural given

def text : ValueClass → String
  | boolean => "Boolean"
  | string => "String"
  | integer => "Integer"
  | long => "Long"
  | float => "Float"
  | double => "Double"
  | decimal => "Decimal"
  | number => "Number"
  | date => "Date"
  | object => "Object"
  | content => "Content"
  | list component => "List<" ++ component.text ++ ">"
  | array component => "Array<" ++ component.text ++ ">"

def description : ValueClass → String
  | list component => "List(" ++ component.description ++ ")"
  | array component => "Array(" ++ component.description ++ ")"
  | simple => simple.text

end ValueClass

end TypedPath
