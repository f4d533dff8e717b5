import BuoyGateway.Launch.Action
import BuoyGateway.Text.Utf8

/-!
# The output of a program

A program writes octets on two channels. They arrive in pieces, cut anywhere, and each channel is
read into lines by itself: a line ends with a newline or with the channel, its octets are decoded
with replacement, and line ends are taken off its end. `Output.collect` is what the readers hand
over, each line with its channel, as the pieces of both channels arrive.
-/

namespace BuoyGateway

inductive Channel
  | output
  | errors
  deriving DecidableEq, Repr

/-- What is seen of a running program: some octets on a channel, or the end of a channel. -/
inductive Arrival
  | piece (channel : Channel) (octets : List UInt8)
  | ended (channel : Channel)
  deriving DecidableEq, Repr

namespace Output

def newline : UInt8 := 10

def isLineEnd (c : Char) : Bool := c == '\n' || c == '\r'

def withoutLineEnds (s : List Char) : List Char := (s.reverse.dropWhile isLineEnd).reverse

def line (octets : List UInt8) : String :=
  String.ofList (withoutLineEnds (Text.decodeLossy octets))

/-- A reader of lines: the octets since the last newline, the latest first. -/
structure LineReader where
  pending : List UInt8 := []
  deriving DecidableEq, Repr

/-- Reads octets: the lines that they complete, and the reader after them. -/
def LineReader.feed (reader : LineReader) : List UInt8 → List String × LineReader
  | [] => ([], reader)
  | b :: octets =>
    if b = newline then
      let (lines, reader') := LineReader.feed {} octets
      (line (b :: reader.pending).reverse :: lines, reader')
    else LineReader.feed ⟨b :: reader.pending⟩ octets

def LineReader.finish (reader : LineReader) : List String :=
  match reader.pending with
  | [] => []
  | pending => [line pending.reverse]

structure Readers where
  output : LineReader := {}
  errors : LineReader := {}
  deriving DecidableEq, Repr

namespace Readers

def get (readers : Readers) : Channel → LineReader
  | .output => readers.output
  | .errors => readers.errors

def set (readers : Readers) (reader : LineReader) : Channel → Readers
  | .output => { readers with output := reader }
  | .errors => { readers with errors := reader }

def step (readers : Readers) : Arrival → List (Channel × String) × Readers
  | .piece channel octets =>
    let (lines, reader) := (readers.get channel).feed octets
    (lines.map (fun l => (channel, l)), readers.set reader channel)
  | .ended channel =>
    ((readers.get channel).finish.map (fun l => (channel, l)), readers.set {} channel)

end Readers

def collect (arrivals : List Arrival) : List (Channel × String) :=
  (arrivals.foldl
    (fun (lines, readers) arrival =>
      let (more, readers) := Readers.step readers arrival
      (more.reverse ++ lines, readers))
    ([], ({} : Readers))).1.reverse

end Output

def Report.ofArrivals (arrivals : List Arrival) (ending : Ending) : Report where
  lines := (Output.collect arrivals).map Prod.snd
  result := .ok ending

end BuoyGateway
