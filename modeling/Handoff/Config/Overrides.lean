import Handoff.Config.Basic

/-!
Settings that take the place of those in the configuration.
-/

namespace Handoff

/-- Settings given outside the configuration, each optional. -/
structure Overrides where
  waitfile : Option Path := none
  pollIntervalMs : Option Nat := none
  url : Option String := none
  plugin : Option String := none
  node : Option String := none
  gracePeriodSecs : Option Nat := none
  logLevel : Option String := none
  logFormat : Option LogFormat := none
  metricsAddress : Option String := none
deriving DecidableEq, Repr

/-- The configuration with each setting that is given put in place. A metrics address also turns the
metrics on. -/
def Overrides.apply (o : Overrides) (c : Config) : Config where
  waitfile :=
    { path := o.waitfile.getD c.waitfile.path
      pollIntervalMs := o.pollIntervalMs.getD c.waitfile.pollIntervalMs }
  aggregator :=
    { url := o.url.getD c.aggregator.url
      plugin := o.plugin.or c.aggregator.plugin
      node := o.node.or c.aggregator.node
      method := c.aggregator.method }
  shutdown := { gracePeriodSecs := o.gracePeriodSecs.getD c.shutdown.gracePeriodSecs }
  transmit := c.transmit
  observability :=
    { logLevel := o.logLevel.getD c.observability.logLevel
      logFormat := o.logFormat.getD c.observability.logFormat
      metricsEnabled := o.metricsAddress.isSome || c.observability.metricsEnabled
      metricsAddress := o.metricsAddress.getD c.observability.metricsAddress }

end Handoff
