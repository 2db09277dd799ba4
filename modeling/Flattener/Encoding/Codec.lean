import Flattener.Encoding.Basic
import Flattener.Setting

/-!
# Codecs

A codec turns text into bytes and bytes into text, or says why it does not. Which codecs there are
is up to the system that a run works on (`Codecs`): a name stands for one of them or for none, and
one is customary, which is taken when no name is given. Nothing is asked of a codec; it need not
read what it has written.

* `Codecs.ofSetting` is the codec that a setting names.
* `Codecs.builtIn` are the codecs of the encodings that the program itself knows.
-/

namespace Flattener

/-- Why a codec gives nothing. -/
inductive CodecFault (α : Type) where
  /-- There is a fault at some place of what it was given. -/
  | located (e : α)
  /-- What it was given is refused as a whole. -/
  | whole (message : Text)
  deriving DecidableEq, Repr

/-- A codec. -/
structure Codec where
  encode : Text → Except (CodecFault EncodeFault) (List UInt8)
  decode : List UInt8 → Except (CodecFault DecodeFault) Text

/-- The codecs that there are: the one that a name stands for, and the customary one. -/
structure Codecs where
  named? : Text → Option Codec
  customary : Codec

/-- Why a setting gives no codec, or its codec no bytes or no text. -/
inductive EncodingFault where
  /-- The setting is neither a name nor nothing. -/
  | nameless
  /-- The name holds a null character. -/
  | embeddedNull
  /-- No codec has this name. -/
  | unknown (name : Text)
  /-- Some characters have no bytes. -/
  | unencodable (e : EncodeFault)
  /-- The codec refuses a text or bytes as a whole. -/
  | refused (message : Text)
  deriving DecidableEq, Repr

namespace EncodingFault

/-- What the user is told about something invalid. A name that stands for nothing is not among
that. -/
def invalid? : EncodingFault → Option Text
  | embeddedNull => some "embedded null character".toList
  | unencodable e => some e.message
  | refused message => some message
  | _ => none

/-- A fault of writing a text. -/
def ofEncode : CodecFault EncodeFault → EncodingFault
  | .located e => unencodable e
  | .whole message => refused message

end EncodingFault

namespace Codecs

/-- The name that a setting gives; nothing stands for the customary codec. -/
def nameOf : Setting → Except EncodingFault (Option Text)
  | .null => .ok none
  | .text name => if name.contains '\x00' then .error .embeddedNull else .ok (some name)
  | _ => .error .nameless

/-- The word for the customary codec. -/
def customaryName : Text := "locale".toList

/-- The codec with the given name, or the customary one without any. -/
def find (codecs : Codecs) : Option Text → Except EncodingFault Codec
  | none => .ok codecs.customary
  | some name =>
    if name = customaryName then .ok codecs.customary
    else
      match codecs.named? name with
      | some c => .ok c
      | none => .error (.unknown name)

/-- The codec that a setting names. -/
def ofSetting (codecs : Codecs) (s : Setting) : Except EncodingFault Codec :=
  nameOf s >>= codecs.find

end Codecs

/-- The bytes of a text. -/
def Codec.bytes (c : Codec) (t : Text) : Except EncodingFault (List UInt8) :=
  (c.encode t).mapError .ofEncode

/-- An encoding as a codec. -/
def Encoding.codec (e : Encoding) : Codec where
  encode t := (e.encode t).mapError .located
  decode bytes := (e.decode bytes).mapError .located

/-- The codecs of the encodings that the program itself knows; UTF-8 is customary. -/
def Codecs.builtIn : Codecs where
  named? name := (Encoding.ofName? name).map Encoding.codec
  customary := Encoding.utf8.codec

end Flattener
