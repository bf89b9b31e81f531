import RowFilter.Text.Composition
import RowFilter.Text.Utf8
import RowFilter.Url.Address
import RowFilter.Url.Domain.Bidirectional
import RowFilter.Url.Domain.Label
import RowFilter.Url.Domain.Mapping

namespace RowFilter.Url

open Text

inductive UrlError
  | emptyHost | invalidDomain | invalidPort | invalidIpv4 | invalidIpv6
  | invalidHostCharacter | noScheme
deriving DecidableEq, Repr

def UrlError.message : UrlError → String
  | emptyHost => "empty host"
  | invalidDomain => "invalid international domain name"
  | invalidPort => "invalid port number"
  | invalidIpv4 => "invalid IPv4 address"
  | invalidIpv6 => "invalid IPv6 address"
  | invalidHostCharacter => "invalid domain character"
  | noScheme => "relative URL without a base"

def domainText? (host : List Char) : Option (List Char) :=
  match Utf8.decode? (percentDecode (utf8Bytes host)) with
  | none => none
  | some s => (s.toList.mapM Domain.mapped?).map fun forms => composed forms.flatten

def isDomain (text : List Char) : Bool :=
  match (text.splitOn '.').mapM Domain.meaning? with
  | none => false
  | some labels => labels.all Domain.isLabel && Domain.isReadable labels

def domain (host : List Char) : Except UrlError Unit :=
  match domainText? host with
  | none => .error .invalidDomain
  | some text =>
    if !isDomain text then .error .invalidDomain
    else if text.isEmpty then .error .emptyHost
    else if endsInNumber text && !isIpv4 text then .error .invalidIpv4
    else .ok ()

end RowFilter.Url
