import OrderDesk.Form

/-!
# Settings

The desk is set up from named values and, for what they leave out, from the
environment, whose names are compared without regard to letter case. Everything has a
default. The settings that are asked for without values are read once and kept.
-/

namespace OrderDesk

/-- The settings of the desk. -/
structure Settings where
  databaseUrl : String := "sqlite+aiosqlite:///orders.db"
  /-- The level at which notices are written. -/
  logLevel : String := "INFO"
  /-- How many levels of a book are asked for. -/
  orderBookDepth : Int := 20
  /-- A limit this many percent off the market draws a warning. -/
  priceDeviationWarning : Float := 5.0
  /-- Slippage above this many percent draws a warning. -/
  highSlippageWarning : Float := 1.0
  /-- The maker rate that is assumed of an unknown venue. -/
  defaultMakerFee : Float := 0.001
  /-- The taker rate that is assumed of an unknown venue. -/
  defaultTakerFee : Float := 0.001
  /-- How long a client waits for a venue, in milliseconds. -/
  exchangeTimeout : Int := 30000
  /-- Orders go to the venues' sandboxes. -/
  exchangeSandbox : Bool := false

namespace Settings

/-- The names of the settings, in their order. -/
def names : List String :=
  ["database_url", "log_level", "order_book_depth", "price_deviation_warning_pct",
   "high_slippage_warning_pct", "default_maker_fee", "default_taker_fee",
   "exchange_timeout_ms", "exchange_sandbox"]

/-- The value of a setting in the environment: the last variable with its name, in any
letter case. -/
def fromEnvironment? (env : List (String × String)) (name : String) : Option Payload :=
  (env.reverse.find? fun v => Text.lower v.1 == name).map fun v => .text v.2

/-- The named values, completed from the environment. -/
def form (values : List (String × Payload)) (env : List (String × String)) :
    List (String × Payload) :=
  names.filterMap fun name =>
    ((values.lookup name) <|> (fromEnvironment? env name)).map (name, ·)

/-- Settings from a form. -/
def ofForm (form : List (String × Payload)) : Form.Checked Settings :=
  let d : Settings := {}
  mk <$> Form.withDefault form "database_url" d.databaseUrl Form.asText
    <*> Form.withDefault form "log_level" d.logLevel Form.asText
    <*> Form.withDefault form "order_book_depth" d.orderBookDepth Form.asWhole
    <*> Form.withDefault form "price_deviation_warning_pct" d.priceDeviationWarning
      Form.asNumber
    <*> Form.withDefault form "high_slippage_warning_pct" d.highSlippageWarning Form.asNumber
    <*> Form.withDefault form "default_maker_fee" d.defaultMakerFee Form.asNumber
    <*> Form.withDefault form "default_taker_fee" d.defaultTakerFee Form.asNumber
    <*> Form.withDefault form "exchange_timeout_ms" d.exchangeTimeout Form.asWhole
    <*> Form.withDefault form "exchange_sandbox" d.exchangeSandbox Form.asFlag

/-- **Settings from named values and the environment.** A named value wins. -/
def read (values : List (String × Payload)) (env : List (String × String)) :
    Form.Checked Settings := ofForm (form values env)

/-- The settings of a running desk, once they have been read. -/
abbrev Kept := Option Settings

/-- The kept settings, read from the environment when there are none. Settings that
cannot be read are not kept. -/
def obtain (kept : Kept) (env : List (String × String)) : Form.Checked Settings × Kept :=
  match kept with
  | some s => (.good s, some s)
  | none =>
    match read [] env with
    | .good s => (.good s, some s)
    | .bad issues => (.bad issues, none)

end Settings

end OrderDesk
