/-!
# The route monitor

The script of a page.  It records the navigation of the application that loads the page, warns of
rapid changes, and switches the page's tabs.
-/

set_option autoImplicit false

namespace RouteAudit
namespace Report

/-- The lines of the script. -/
def monitorLines : List String := [
  "(function () \x7b",
  "  \"use strict\";",
  "",
  "  var RAPID_WINDOW_MS = 1000;",
  "  var RAPID_LIMIT = 3;",
  "  var MONITOR_LINES = 10;",
  "",
  "  function RouteMonitor() \x7b",
  "    this.routeChanges = [];",
  "    this.startTime = Date.now();",
  "    this.monitoring = false;",
  "    this.installed = false;",
  "  \x7d",
  "",
  "  RouteMonitor.prototype.install = function () \x7b",
  "    if (this.installed) return;",
  "    this.installed = true;",
  "",
  "    var self = this;",
  "    var originalPushState = history.pushState;",
  "    var originalReplaceState = history.replaceState;",
  "",
  "    history.pushState = function () \x7b",
  "      self.record(\"pushState\", arguments[2] || location.pathname);",
  "      return originalPushState.apply(history, arguments);",
  "    \x7d;",
  "    history.replaceState = function () \x7b",
  "      self.record(\"replaceState\", arguments[2] || location.pathname);",
  "      return originalReplaceState.apply(history, arguments);",
  "    \x7d;",
  "    window.addEventListener(\"popstate\", function () \x7b",
  "      self.record(\"popstate\", location.pathname);",
  "    \x7d);",
  "  \x7d;",
  "",
  "  RouteMonitor.prototype.start = function () \x7b",
  "    this.install();",
  "    this.monitoring = true;",
  "    this.output(\"Route monitoring started\");",
  "  \x7d;",
  "",
  "  RouteMonitor.prototype.stop = function () \x7b",
  "    this.monitoring = false;",
  "    this.output(\"Route monitoring stopped\");",
  "  \x7d;",
  "",
  "  RouteMonitor.prototype.record = function (type, path) \x7b",
  "    if (!this.monitoring) return;",
  "",
  "    var now = Date.now();",
  "    var change = \x7b type: type, path: String(path), timestamp: now, elapsed: now - this.startTime \x7d;",
  "    this.routeChanges.push(change);",
  "    this.showInMonitor(type + \": \" + change.path + \" (\" + change.elapsed + \"ms)\");",
  "    this.output(\"[\" + new Date().toLocaleTimeString() + \"] \" + type + \": \" + change.path);",
  "    this.checkForIssues(change);",
  "  \x7d;",
  "",
  "  RouteMonitor.prototype.checkForIssues = function (change) \x7b",
  "    var now = Date.now();",
  "    var recent = this.routeChanges.filter(function (c) \x7b",
  "      return now - c.timestamp < RAPID_WINDOW_MS;",
  "    \x7d).length;",
  "    if (recent > RAPID_LIMIT) \x7b",
  "      this.output(\"⚠️ WARNING: Rapid route changes detected - possible unmount/remount cycle\");",
  "    \x7d",
  "",
  "    if (this.routeChanges.length > 1) \x7b",
  "      var previous = this.routeChanges[this.routeChanges.length - 2];",
  "      if (previous.path === change.path) \x7b",
  "        this.output(\"⚠️ WARNING: Navigation to same route - possible route instability\");",
  "      \x7d",
  "    \x7d",
  "  \x7d;",
  "",
  "  RouteMonitor.prototype.showInMonitor = function (message) \x7b",
  "    var monitor = document.getElementById(\"monitor-content\");",
  "    if (!monitor) return;",
  "    var line = document.createElement(\"div\");",
  "    line.textContent = new Date().toLocaleTimeString() + \": \" + message;",
  "    monitor.appendChild(line);",
  "    while (monitor.children.length > MONITOR_LINES) \x7b",
  "      monitor.removeChild(monitor.firstChild);",
  "    \x7d",
  "    monitor.scrollTop = monitor.scrollHeight;",
  "  \x7d;",
  "",
  "  RouteMonitor.prototype.output = function (message) \x7b",
  "    var output = document.getElementById(\"debug-output\");",
  "    if (!output) return;",
  "    output.textContent = message + \"\\n\" + output.textContent;",
  "  \x7d;",
  "",
  "  RouteMonitor.prototype.analyzeCurrentRoute = function () \x7b",
  "    var inModule = location.pathname.indexOf(\"/module/\") !== -1;",
  "    var analysis = \x7b",
  "      pathname: location.pathname,",
  "      search: location.search,",
  "      hash: location.hash,",
  "      routeChanges: this.routeChanges.length,",
  "      moduleDetected: inModule,",
  "      moduleId: inModule ? location.pathname.split(\"/module/\")[1].split(\"/\")[0] : null",
  "    \x7d;",
  "    this.output(\"📄 Current route analysis: \" + JSON.stringify(analysis, null, 2));",
  "    return analysis;",
  "  \x7d;",
  "",
  "  RouteMonitor.prototype.exportData = function () \x7b",
  "    var data = \x7b",
  "      timestamp: new Date().toISOString(),",
  "      location: location.href,",
  "      routeChanges: this.routeChanges,",
  "      analysis: this.analyzeCurrentRoute(),",
  "      originalAnalysis: window.routeDebugData",
  "    \x7d;",
  "    var blob = new Blob([JSON.stringify(data, null, 2)], \x7b type: \"application/json\" \x7d);",
  "    var url = URL.createObjectURL(blob);",
  "    var link = document.createElement(\"a\");",
  "    link.href = url;",
  "    link.download = \"route-debug-export-\" + Date.now() + \".json\";",
  "    link.click();",
  "    URL.revokeObjectURL(url);",
  "    this.output(\"📁 Debug data exported\");",
  "  \x7d;",
  "",
  "  var monitor = new RouteMonitor();",
  "  window.routeMonitor = monitor;",
  "",
  "  var actions = \x7b",
  "    start: function () \x7b",
  "      document.getElementById(\"monitor\").style.display = \"block\";",
  "      monitor.start();",
  "    \x7d,",
  "    stop: function () \x7b",
  "      document.getElementById(\"monitor\").style.display = \"none\";",
  "      monitor.stop();",
  "    \x7d,",
  "    analyze: function () \x7b monitor.analyzeCurrentRoute(); \x7d,",
  "    \"export\": function () \x7b monitor.exportData(); \x7d",
  "  \x7d;",
  "",
  "  document.querySelectorAll(\".debug-button\").forEach(function (button) \x7b",
  "    button.addEventListener(\"click\", function () \x7b",
  "      actions[button.getAttribute(\"data-action\")]();",
  "    \x7d);",
  "  \x7d);",
  "",
  "  document.querySelectorAll(\".tab\").forEach(function (tab) \x7b",
  "    tab.addEventListener(\"click\", function () \x7b",
  "      document.querySelectorAll(\".tab-content\").forEach(function (c) \x7b c.classList.remove(\"active\"); \x7d);",
  "      document.querySelectorAll(\".tab\").forEach(function (t) \x7b t.classList.remove(\"active\"); \x7d);",
  "      document.getElementById(tab.getAttribute(\"data-tab\")).classList.add(\"active\");",
  "      tab.classList.add(\"active\");",
  "    \x7d);",
  "  \x7d);",
  "",
  "  console.log(\"Route Debugger Report loaded\", window.routeDebugData);",
  "\x7d)();"]

/-- The text of the script. -/
def monitorScript : String := String.join (monitorLines.map (· ++ "\n"))

end Report
end RouteAudit
