import SloCompiler.Dashboard.Layout
import SloCompiler.Rule.Alerting

namespace SloCompiler

structure Dashboard where
  uid : String
  title : String
  description : String
  tags : List String
  alertmanagerUrl : String
  panels : List PlacedPanel

def Dashboard.toValue (d : Dashboard) : Value :=
  .object [
    ("uid", .str d.uid), ("title", .str d.title), ("description", .str d.description),
    ("tags", .strings d.tags), ("timezone", .str "browser"), ("editable", .bool false),
    ("graphTooltip", .int 1),
    ("time", .object [("from", .str "now-6h"), ("to", .str "now")]),
    ("timepicker", .object [
      ("refresh_intervals", .strings ["30s", "1m", "5m", "15m", "30m", "1h"])]),
    ("links", .list [.object [
      ("title", .str "Alertmanager"), ("type", .str "link"), ("url", .str d.alertmanagerUrl),
      ("targetBlank", .bool true)]]),
    ("panels", .list (d.panels.map PlacedPanel.toValue)),
    ("annotations", .object [("list", .list [])]), ("schemaVersion", .int 38),
    ("version", .int 1), ("refresh", .str "1m")]

abbrev PanelGroups := List (String × List Entries)

namespace PanelGroups

def add (groups : PanelGroups) (product : String) (panel : Entries) : PanelGroups :=
  Ordered.append product [panel] groups

def dashboard (config : MixinConfig) (uidName title tag : String) (rows : PanelGroups) :
    Dashboard where
  uid := dashboardUid config.product uidName
  title := title
  description := "SLI dashboard for " ++ config.displayName
  tags := ["slo", "sli", config.product, tag]
  alertmanagerUrl := config.alertmanagerUrl
  panels := Layout.place rows

def productDashboard (config : MixinConfig) (groups : PanelGroups) (product : String) :
    Dashboard :=
  dashboard config product (config.displayName ++ " / " ++ product ++ " SLIs") product
    [(product, (Ordered.get? groups product).getD [])]

def summary (config : MixinConfig) (groups : PanelGroups) : Dashboard :=
  dashboard config "summary" (config.displayName ++ " SLI Summary") "summary" groups

def dashboards (config : MixinConfig) (groups : PanelGroups) : List (String × Dashboard) :=
  groups.map fun (product, _) => (product, productDashboard config groups product)

end PanelGroups

end SloCompiler
